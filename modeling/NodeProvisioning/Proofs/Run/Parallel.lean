import NodeProvisioning.Proofs.Run.Answering

/-!
# Runs side by side

Two runs on two backends, with states of two types, are compared by what can be seen of them from
outside: how they end and when, and which calls they begin and when.  They are *abreast* if in this
they are alike.  Their answers may differ; but where they do, the values that the runs give differ
as a relation on values allows, and whatever is done with these values next has to make up for it.

All waits of a run depend on the clock alone.  So two runs that are abreast stay so as long as their
calls are answered at the same instants, and how a call is answered, at once or when it goes on,
does not matter.

## Main definitions

* `History.calls` — the calls of a history, with their instants
* `Progress.reply` — when what has begun is answered and with what, as seen from outside
* `Run.Abreast` — two runs end alike, at one instant, after the same calls

## Main statements

* `Run.Abreast.bind` — a sequence
* `Run.Abreast.perform` — a call with the same reply
-/

namespace NodeProvisioning

variable {σ τ α β : Type}

/-- The calls that began, in order, each with its instant. -/
def History.calls (events : List Event) : List (Instant × Call) :=
  events.filterMap fun
    | .began t call => some (t, call)
    | .took _ _ => none

@[simp] theorem History.calls_append (before after : List Event) :
    calls (before ++ after) = calls before ++ calls after :=
  List.filterMap_append

/-- **The reply** to what has begun in a state: the delay after which it goes on, if it ever does,
and the answer that it then comes to, if any.  What is answered at once goes on without delay. -/
def Progress.reply (s : σ) : Progress σ α → Option (Nat × Option α)
  | .answered a => some (0, some a)
  | .unanswered => none
  | .waiting delay _ finish => some (delay, (finish s).2)

/-- What is answered at once may as well be answered after no delay, where a wait for the instant
that is now does nothing. -/
theorem Progress.exists_patient {pause : Option Instant → Run σ Unit} {w : World σ}
    (p : Progress σ α) (took : α → Answer) (idle : pause (some w.now) w = (.ok (), w)) :
    ∃ q : Progress σ α, Run.complete pause took p w = Run.complete pause took q w ∧
      q.reply w.state = p.reply w.state ∧
      (q = .unanswered ∨ ∃ delay turn finish, q = .waiting delay turn finish) := by
  cases p with
  | answered a =>
    refine ⟨.waiting 0 0 fun s => (s, some a), ?_, rfl, .inr ⟨_, _, _, rfl⟩⟩
    have idle : pause (some (w.now + 0)) w = (.ok (), w) := idle
    unfold Run.complete
    dsimp only
    rw [Run.bind_of_ok (Run.now_apply w), Run.bind_of_ok idle]
    rfl
  | unanswered => exact ⟨_, rfl, rfl, .inl rfl⟩
  | waiting delay turn finish => exact ⟨_, rfl, rfl, .inr ⟨_, _, _, rfl⟩⟩

/-- The reply to a call that begins at an instant, in a state. -/
def Call.reply (begin : Instant → σ → σ × Progress σ α) (t : Instant) (s : σ) :
    Option (Nat × Option α) :=
  (begin t s).2.reply (begin t s).1

/-- A call that is answered has a reply. -/
theorem Call.Answered.reply_eq {begin : Instant → σ → σ × Progress σ α} {x : World σ} {a : α}
    {t : Instant} {after : σ} (h : Call.Answered begin x a t after) :
    Call.reply begin x.now x.state = some (t - x.now, some a) := by
  unfold Call.reply
  cases h with
  | atOnce begun =>
    rw [begun, Nat.sub_self]
    rfl
  | later begun finished =>
    rw [begun, Nat.add_sub_cancel_left]
    simp only [Progress.reply, finished]

/-- A call with an answer in its reply is answered. -/
theorem Call.answered_of_reply {begin : Instant → σ → σ × Progress σ α} {x : World σ} {a : α}
    {delay : Nat} (h : Call.reply begin x.now x.state = some (delay, some a)) :
    ∃ after, Call.Answered begin x a (x.now + delay) after := by
  unfold Call.reply at h
  rcases begun : begin x.now x.state with ⟨between, progress⟩
  rw [begun] at h
  cases progress with
  | answered a' =>
    cases h
    exact ⟨between, .atOnce begun⟩
  | unanswered => cases h
  | waiting delay' turn finish =>
    obtain ⟨rfl, found⟩ := Prod.mk.inj (Option.some.inj h)
    exact ⟨_, .later begun (Prod.ext rfl found)⟩

/-- Two replies at one instant, with answers that are related. -/
inductive Replies (V : α → β → Prop) : Option (Nat × Option α) → Option (Nat × Option β) → Prop
  | never : Replies V none none
  | lost (delay : Nat) : Replies V (some (delay, none)) (some (delay, none))
  | answered (delay : Nat) {a : α} {b : β} (related : V a b) :
      Replies V (some (delay, some a)) (some (delay, some b))

theorem Replies.isSome_eq {V : α → β → Prop} {reply : Option (Nat × Option α)}
    {reply' : Option (Nat × Option β)} (h : Replies V reply reply') :
    reply.isSome = reply'.isSome := by
  cases h <;> rfl

theorem Replies.delay_eq {V : α → β → Prop} {delay delay' : Nat} {a : Option α} {b : Option β}
    (h : Replies V (some (delay, a)) (some (delay', b))) : delay = delay' := by
  cases h <;> rfl

theorem Replies.of_eq {V : α → α → Prop} {reply reply' : Option (Nat × Option α)}
    (same : reply = reply') (refl : ∀ a, V a a) : Replies V reply reply' := by
  subst same
  rcases reply with _ | ⟨delay, _ | a⟩
  · exact .never
  · exact .lost delay
  · exact .answered delay (refl a)

namespace Run

/-- A run that is quiet leaves the state as it was. -/
theorem Quiet.state_eq {x : Run σ α} (h : Quiet x) {w w₁ : World σ} {r : Except Halt α}
    (ran : x w = (r, w₁)) : w₁.state = w.state := by
  have still := (h w).2
  rwa [ran] at still

/-- Two runs end alike: for the same reason, or with values that are related. -/
inductive Matched (V : α → β → Prop) : Except Halt α → Except Halt β → Prop
  | ok {a : α} {b : β} (related : V a b) : Matched V (.ok a) (.ok b)
  | halt (h : Halt) : Matched V (.error h) (.error h)

/-- Two runs that may only give the same values end with the same result. -/
theorem Matched.eq {r r' : Except Halt α} (h : Matched Eq r r') : r = r' := by
  cases h with
  | ok related => rw [related]
  | halt => rfl

/-- **Two runs are abreast** that began in `w` and `w'`: they end alike and at one instant, and
since then have begun the same calls at the same instants. -/
structure Abreast (V : α → β → Prop) (w : World σ) (w' : World τ)
    (r : Except Halt α × World σ) (r' : Except Halt β × World τ) : Prop where
  result : Matched V r.1 r'.1
  now_eq : r.2.now = r'.2.now
  calls_eq : ∃ events events', w.Leads events r.2 ∧ w'.Leads events' r'.2 ∧
    History.calls events = History.calls events'

namespace Abreast

variable {V : α → β → Prop} {w : World σ} {w' : World τ}

/-- Runs that do nothing. -/
theorem pure {a : α} {b : β} (related : V a b) (sameNow : w.now = w'.now) :
    Abreast V w w' ((Pure.pure a : Run σ α) w) ((Pure.pure b : Run τ β) w') :=
  ⟨.ok related, sameNow, [], [], .refl w, .refl w', rfl⟩

theorem halt (h : Halt) (sameNow : w.now = w'.now) :
    Abreast V w w' ((Run.halt h : Run σ α) w) ((Run.halt h : Run τ β) w') :=
  ⟨.halt h, sameNow, [], [], .refl w, .refl w', rfl⟩

/-- What happens first may be the same calls in both runs. -/
theorem after {w₁ : World σ} {w₁' : World τ} {r : Except Halt α × World σ}
    {r' : Except Halt β × World τ} {events events' : List Event} (led : w.Leads events w₁)
    (led' : w'.Leads events' w₁') (same : History.calls events = History.calls events')
    (h : Abreast V w₁ w₁' r r') : Abreast V w w' r r' := by
  obtain ⟨more, more', leads, leads', sameMore⟩ := h.calls_eq
  refine ⟨h.result, h.now_eq, _, _, led.trans leads, led'.trans leads', ?_⟩
  rw [History.calls_append, History.calls_append, same, sameMore]

/-- **Sequences are abreast** if their first runs are, and so are the second ones with whatever
values these give. -/
theorem bind {γ δ : Type} {U : γ → δ → Prop} {x : Run σ α} {x' : Run τ β} {f : α → Run σ γ}
    {f' : β → Run τ δ} (first : Abreast V w w' (x w) (x' w'))
    (second : ∀ a b w₁ w₁', x w = (.ok a, w₁) → x' w' = (.ok b, w₁') → V a b → w₁.now = w₁'.now →
      Abreast U w₁ w₁' (f a w₁) (f' b w₁')) :
    Abreast U w w' ((x >>= f) w) ((x' >>= f') w') := by
  obtain ⟨result, sameNow, events, events', led, led', same⟩ := first
  rcases ran : x w with ⟨r, w₁⟩
  rcases ran' : x' w' with ⟨r', w₁'⟩
  rw [ran] at result sameNow led
  rw [ran'] at result sameNow led'
  cases result with
  | ok related =>
    rw [bind_of_ok ran, bind_of_ok ran']
    exact (second _ _ w₁ w₁' ran ran' related sameNow).after led led' same
  | halt h =>
    rw [bind_of_error ran, bind_of_error ran']
    exact ⟨.halt h, sameNow, events, events', led, led', same⟩

/-- The clock. -/
theorem now (sameNow : w.now = w'.now) :
    Abreast Eq w w' ((Run.now : Run σ Instant) w) ((Run.now : Run τ Instant) w') :=
  ⟨.ok sameNow, sameNow, [], [], .refl w, .refl w', rfl⟩

/-- **Waits** depend on the clock alone. -/
theorem sleepUntil {ω : Type} (alarms : List (Alarm ω)) (sameNow : w.now = w'.now) :
    Abreast Eq w w' ((Run.sleepUntil alarms : Run σ ω) w)
      ((Run.sleepUntil alarms : Run τ ω) w') := by
  unfold Run.sleepUntil
  rw [← sameNow]
  cases Alarm.next w.now alarms with
  | some found => exact ⟨.ok rfl, rfl, [], [], .of_trace_eq rfl, .of_trace_eq rfl, rfl⟩
  | none => exact ⟨.halt _, sameNow, [], [], .refl w, .refl w', rfl⟩

/-- Taking an answer is no call. -/
theorem take {a : α} {b : β} (related : V a b) (took : α → Answer) (took' : β → Answer)
    (sameNow : w.now = w'.now) :
    Abreast V w w' ((do Run.note fun t => .took t (took a); return a : Run σ α) w)
      ((do Run.note fun t => .took t (took' b); return b : Run τ β) w') :=
  ⟨.ok related, sameNow, _, _, .of_trace_cons rfl, .of_trace_cons rfl, rfl⟩

section Calls

variable {pause : Option Instant → Run σ Unit} {pause' : Option Instant → Run τ Unit}
variable {took : α → Answer} {took' : β → Answer}

/-- Going on may change the state, which cannot be seen. -/
theorem finish {finish : σ → σ × Option α} {finish' : τ → τ × Option β} {delay : Nat}
    (pauses : ∀ due (v : World σ) (v' : World τ), v.now = v'.now →
      Abreast Eq v v' (pause due v) (pause' due v'))
    (replies : Replies V (some (delay, (finish w.state).2)) (some (delay, (finish' w'.state).2)))
    (sameNow : w.now = w'.now) :
    Abreast V w w'
      ((do
        match ← Run.act finish with
        | some a => Run.note fun t => .took t (took a); return a
        | none => pause none; Run.halt .stalled : Run σ α) w)
      ((do
        match ← Run.act finish' with
        | some b => Run.note fun t => .took t (took' b); return b
        | none => pause' none; Run.halt .stalled : Run τ β) w') := by
  let v : World σ := { w with state := (finish w.state).1 }
  let v' : World τ := { w' with state := (finish' w'.state).1 }
  have acted : Run.act finish w = (.ok (finish w.state).2, v) := rfl
  have acted' : Run.act finish' w' = (.ok (finish' w'.state).2, v') := rfl
  rw [bind_of_ok acted, bind_of_ok acted']
  have led : w.Leads [] v := .of_trace_eq rfl
  have led' : w'.Leads [] v' := .of_trace_eq rfl
  refine Abreast.after led led' rfl ?_
  -- From here on only what the two have come to matters.
  generalize (finish w.state).2 = found, (finish' w'.state).2 = found' at replies
  cases replies with
  | lost =>
    exact (pauses none v v' sameNow).bind fun _ _ _ _ _ _ _ sameNow => .halt .stalled sameNow
  | answered _ related => exact Abreast.take related took took' sameNow

/-- A call that has begun is seen through in the same way if it has the same reply. -/
theorem complete {p : Progress σ α} {p' : Progress τ β}
    (pauses : ∀ due (v : World σ) (v' : World τ), v.now = v'.now →
      Abreast Eq v v' (pause due v) (pause' due v'))
    (quiet : ∀ due, Quiet (pause due)) (quiet' : ∀ due, Quiet (pause' due))
    (idle : pause (some w.now) w = (.ok (), w)) (idle' : pause' (some w'.now) w' = (.ok (), w'))
    (replies : Replies V (p.reply w.state) (p'.reply w'.state)) (sameNow : w.now = w'.now) :
    Abreast V w w' (Run.complete pause took p w) (Run.complete pause' took' p' w') := by
  obtain ⟨q, eq, reply, waits⟩ := p.exists_patient took idle
  obtain ⟨q', eq', reply', waits'⟩ := p'.exists_patient took' idle'
  rw [eq, eq']
  rw [← reply, ← reply'] at replies
  rcases waits with rfl | ⟨delay, turn, finish, rfl⟩
  · rcases waits' with rfl | ⟨delay', turn', finish', rfl⟩
    · exact (pauses none w w' sameNow).bind fun _ _ _ _ _ _ _ sameNow => .halt .stalled sameNow
    · cases replies.isSome_eq
  · rcases waits' with rfl | ⟨delay', turn', finish', rfl⟩
    · cases replies.isSome_eq
    · -- Both go on after the same delay, in the states in which they have begun.
      obtain rfl : delay = delay' := replies.delay_eq
      unfold Run.complete
      dsimp only
      rw [bind_of_ok (now_apply w), bind_of_ok (now_apply w'), ← sameNow]
      refine (pauses _ w w' sameNow).bind fun _ _ v v' paused paused' _ sameNow => ?_
      have kept : v.state = w.state := (quiet _).state_eq paused
      have kept' : v'.state = w'.state := (quiet' _).state_eq paused'
      have found : Replies V (some (delay, (finish v.state).2))
          (some (delay, (finish' v'.state).2)) := by
        rw [kept, kept']
        exact replies
      exact Abreast.finish pauses found sameNow

/-- **Calls are abreast** if they are the same and have the same reply. -/
theorem perform {call : Call} {begin : Instant → σ → σ × Progress σ α}
    {begin' : Instant → τ → τ × Progress τ β}
    (pauses : ∀ due (v : World σ) (v' : World τ), v.now = v'.now →
      Abreast Eq v v' (pause due v) (pause' due v'))
    (quiet : ∀ due, Quiet (pause due)) (quiet' : ∀ due, Quiet (pause' due))
    (idle : ∀ v : World σ, v.now = w.now → pause (some w.now) v = (.ok (), v))
    (idle' : ∀ v : World τ, v.now = w'.now → pause' (some w'.now) v = (.ok (), v))
    (replies : Replies V (Call.reply begin w.now w.state) (Call.reply begin' w'.now w'.state))
    (sameNow : w.now = w'.now) :
    Abreast V w w' (Run.perform pause call took begin w)
      (Run.perform pause' call took' begin' w') := by
  have led : w.Leads [.began w.now call] (w.begun call begin) := .of_trace_cons rfl
  have led' : w'.Leads [.began w'.now call] (w'.begun call begin') := .of_trace_cons rfl
  refine Abreast.after led led' (by rw [sameNow]) ?_
  exact Abreast.complete pauses quiet quiet' (idle _ rfl) (idle' _ rfl) replies sameNow

end Calls

end Abreast

end Run

end NodeProvisioning
