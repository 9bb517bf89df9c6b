import NodeProvisioning.Proofs.Run.Answering

/-!
# Runs that are cancelled

A cancellation comes at an instant, and a run notices it only where it looks at the clock or lets
time pass.  To say what it makes of a run, the run is compared with the same run without it.  Up to
that instant the two do the same, for every wait of the one that ends before the cancellation ends
so in the other; and the first wait that does not, ends with the cancellation.  So the run is over
before, and then it is the free run; or it ends when the cancellation comes, after the free run's
events up to then.

This is proved along the way in which runs are put together.  A sequence is cut short in its first
part or in its second; if in its first, the free run goes on, and all that it does then comes later.

## Main definitions

* `World.Elapses`, `Run.Forward` — runs go forward in time
* `Run.Cut` — what a cancellation makes of a run that it finds under way
* `Run.Cancels` — a run, and the same run with a cancellation
* `Run.Obeys` — what a cancellation makes of a run, whenever it comes

## Main statements

* `Run.Cancels.bind` — a sequence of runs
* `Run.Cancels.sleepUntil` — a wait, in which the cancellation comes first of all alarms
* `Run.Cancels.perform` — a call
-/

namespace NodeProvisioning

variable {σ α β : Type}

/-! ## Forward in time -/

/-- **Time goes on** from one world to another, and what happened in between is dated so. -/
structure World.Elapses (w w₁ : World σ) : Prop where
  now_le : w.now ≤ w₁.now
  during : ∃ events, w.Leads events w₁ ∧ ∀ e ∈ events, w.now ≤ e.time ∧ e.time ≤ w₁.now

namespace World.Elapses

variable {w w₁ w₂ : World σ}

/-- Nothing happened. -/
theorem of_trace_eq (le : w.now ≤ w₁.now) (same : w₁.trace = w.trace) : w.Elapses w₁ :=
  ⟨le, [], .of_trace_eq same, List.forall_mem_nil _⟩

theorem refl (w : World σ) : w.Elapses w := .of_trace_eq (Nat.le_refl _) rfl

theorem trans (h : w.Elapses w₁) (h' : w₁.Elapses w₂) : w.Elapses w₂ := by
  obtain ⟨before, led, early⟩ := h.during
  obtain ⟨after, leads, late⟩ := h'.during
  refine ⟨Nat.le_trans h.now_le h'.now_le, _, led.trans leads, fun e mem => ?_⟩
  rcases List.mem_append.1 mem with mem | mem
  · obtain ⟨lower, upper⟩ := early e mem
    exact ⟨lower, Nat.le_trans upper h'.now_le⟩
  · obtain ⟨lower, upper⟩ := late e mem
    exact ⟨Nat.le_trans h.now_le lower, upper⟩

end World.Elapses

namespace Run

/-- **A run goes forward** in time. -/
def Forward (x : Run σ α) : Prop := ∀ w : World σ, w.Elapses (x w).2

theorem Forward.now_le {x : Run σ α} {w w₁ : World σ} {r : Except Halt α} (h : Forward x)
    (ran : x w = (r, w₁)) : w.now ≤ w₁.now := by
  have elapsed := (h w).now_le
  rwa [ran] at elapsed

theorem Forward.bind {x : Run σ α} {f : α → Run σ β} (first : Forward x)
    (second : ∀ a, Forward (f a)) : Forward (x >>= f) := by
  intro w
  have elapsed := first w
  rcases ran : x w with ⟨e | a, w₁⟩ <;> rw [ran] at elapsed
  · rw [bind_of_error ran]
    exact elapsed
  · rw [bind_of_ok ran]
    exact elapsed.trans (second a w₁)

/-! ## What a cancellation makes of a run -/

section Definitions

variable (workspace : String) (c : Instant) (idle : Prop)

/-- **What a cancellation at `c` makes of a run** that begins in `w` before and would end as `free`
without it.  Where time need not pass, which `idle` tells, a run may be left alone before. -/
inductive Cut (w : World σ) (free : Except Halt α × World σ) : Except Halt α × World σ → Prop
  /-- The run is over before. -/
  | finished (ended : free.2.now < c) (settled : free.1 = .error .stalled → idle) : Cut w free free
  /-- The run is suspended when the cancellation comes, though it may be to go on at the same
  instant; it ends then, after what happened up to then. -/
  | suspended {y : World σ} {before after : List Event}
      (goesOn : c ≤ free.2.now ∨ free.1 = .error .stalled) (isNow : y.now = c)
      (led : w.Leads before y) (early : ∀ e ∈ before, e.time < c)
      (leads : y.Leads after free.2) (late : ∀ e ∈ after, c ≤ e.time) :
      Cut w free (.error (.failed (.cancelled workspace)), y)

/-- **A run, and the same run with a cancellation** at `c`. -/
structure Cancels (free run : Run σ α) : Prop where
  forward : Forward free
  cut : ∀ w, w.now < c → Cut workspace c idle w (free w) (run w)

/-- **A run obeys a cancellation** at `c`: if that comes beforehand, the run ends at once and has
changed nothing; otherwise it is cut short; and nothing happens once the cancellation has come. -/
structure Obeys (w : World σ) (free run : Except Halt α × World σ) : Prop where
  beforehand : c ≤ w.now → run = (.error (.failed (.cancelled workspace)), w)
  meanwhile : w.now < c → Cut workspace c idle w free run
  quiet : ∃ events, w.Leads events run.2 ∧ ∀ e ∈ events, e.time < c

end Definitions

variable {workspace : String} {c : Instant} {idle : Prop}

/-- A run does not stall if with a cancellation it would be over before that comes. -/
theorem Cut.free_ne_stalled {w : World σ} {free run : Except Halt α × World σ}
    (cut : Cut workspace c idle w free run) (busy : ¬ idle) (early : run.2.now < c) :
    free.1 ≠ .error .stalled := by
  cases cut with
  | finished ended settled => exact fun stalled => busy (settled stalled)
  | suspended goesOn isNow => exact absurd early (isNow ▸ Nat.lt_irrefl c)

/-- A cancellation does not make a run stall. -/
theorem Cut.ne_stalled {w : World σ} {free run : Except Halt α × World σ}
    (cut : Cut workspace c idle w free run) (goesOn : free.1 ≠ .error .stalled) :
    run.1 ≠ .error .stalled := by
  cases cut with
  | finished => exact goesOn
  | suspended => nofun

/-- **A sequence is cut short** in its first run or in its second. -/
theorem Cut.bind {w : World σ} {x x' : Run σ α} {f f' : α → Run σ β}
    (elapsed : w.Elapses (x w).2) (first : Cut workspace c idle w (x w) (x' w))
    (forward : ∀ a, Forward (f a))
    (second : ∀ a w₁, x w = (.ok a, w₁) → w₁.now < c →
      Cut workspace c idle w₁ (f a w₁) (f' a w₁)) :
    Cut workspace c idle w ((x >>= f) w) ((x' >>= f') w) := by
  generalize ran' : x' w = run at first
  cases first with
  | finished ended settled =>
    rcases ran : x w with ⟨e | a, w₁⟩ <;> rw [ran] at ran' elapsed ended settled
    · rw [bind_of_error ran, bind_of_error ran']
      exact .finished ended fun same => settled (by cases same; rfl)
    · rw [bind_of_ok ran, bind_of_ok ran']
      have rest := second a w₁ ran ended
      generalize f' a w₁ = run at rest
      obtain ⟨past, led₁, dated⟩ := elapsed.during
      cases rest with
      | finished ended settled => exact .finished ended settled
      | suspended goesOn isNow led early leads late =>
        refine .suspended goesOn isNow (led₁.trans led) (fun e mem => ?_) leads late
        rcases List.mem_append.1 mem with mem | mem
        · exact Nat.lt_of_le_of_lt (dated e mem).2 ended
        · exact early e mem
  | suspended goesOn isNow led early leads late =>
    rw [bind_of_error ran']
    rcases ran : x w with ⟨e | a, w₁⟩ <;> rw [ran] at goesOn leads
    · rw [bind_of_error ran]
      exact .suspended (goesOn.imp id fun same => by cases same; rfl) isNow led early leads late
    · -- The free run goes on, no earlier than the cancellation.
      rw [bind_of_ok ran]
      have reached : c ≤ w₁.now := goesOn.resolve_right nofun
      obtain ⟨passed, more, leads', dated⟩ := forward a w₁
      refine .suspended (.inl (Nat.le_trans reached passed)) isNow led early (leads.trans leads')
        fun e mem => ?_
      rcases List.mem_append.1 mem with mem | mem
      · exact late e mem
      · exact Nat.le_trans reached (dated e mem).1

namespace Cancels

variable {x x' : Run σ α} {f f' : α → Run σ β}

/-- **A sequence** of runs. -/
theorem bind (first : Cancels workspace c idle x x')
    (second : ∀ a, Cancels workspace c idle (f a) (f' a)) :
    Cancels workspace c idle (x >>= f) (x' >>= f') where
  forward := first.forward.bind fun a => (second a).forward
  cut w later := (first.cut w later).bind (first.forward w) (fun a => (second a).forward)
    fun a w₁ _ later₁ => (second a).cut w₁ later₁

/-- A sequence, where only the worlds that its first run leads to count for the second. -/
theorem cut_bind {w : World σ} (first : Cancels workspace c idle x x') (later : w.now < c)
    (forward : ∀ a, Forward (f a))
    (second : ∀ a w₁, x w = (.ok a, w₁) → w₁.now < c →
      Cut workspace c idle w₁ (f a w₁) (f' a w₁)) :
    Cut workspace c idle w ((x >>= f) w) ((x' >>= f') w) :=
  (first.cut w later).bind (first.forward w) forward second

/-- A run that takes no time does not notice a cancellation that is to come. -/
theorem of_still (forward : Forward x) (still : ∀ w, (x w).2.now = w.now)
    (settled : ∀ w, (x w).1 = .error .stalled → idle) (same : ∀ w, w.now < c → x' w = x w) :
    Cancels workspace c idle x x' where
  forward := forward
  cut w later := by
    rw [same w later]
    exact .finished (by rw [still]; exact later) (settled w)

theorem instant (forward : Forward x) (still : ∀ w, (x w).2.now = w.now)
    (settled : ∀ w, (x w).1 = .error .stalled → idle) : Cancels workspace c idle x x :=
  .of_still forward still settled fun _ _ => rfl

theorem pure (a : α) : Cancels workspace c idle (Pure.pure a : Run σ α) (Pure.pure a) :=
  .instant World.Elapses.refl (fun _ => rfl) fun _ same => nomatch same

theorem halt {e : Halt} (settled : e = .stalled → idle) :
    Cancels workspace c idle (Run.halt e : Run σ α) (Run.halt e) :=
  .instant World.Elapses.refl (fun _ => rfl) fun _ same => settled (by cases same; rfl)

theorem fail (e : ProvisionError) :
    Cancels workspace c idle (Run.fail e : Run σ α) (Run.fail e) :=
  .halt nofun

theorem now : Cancels workspace c idle (Run.now : Run σ Instant) Run.now :=
  .instant World.Elapses.refl (fun _ => rfl) fun _ same => nomatch same

theorem act (g : σ → σ × α) : Cancels workspace c idle (Run.act g) (Run.act g) :=
  .instant (fun _ => .of_trace_eq (Nat.le_refl _) rfl) (fun _ => rfl) fun _ same => nomatch same

theorem note {event : Instant → Event} (dated : ∀ t, (event t).time = t) :
    Cancels workspace c idle (Run.note event : Run σ Unit) (Run.note event) := by
  refine .instant (fun w => ⟨Nat.le_refl _, [event w.now], .of_trace_cons rfl, ?_⟩)
    (fun _ => rfl) fun _ same => nomatch same
  rintro e mem
  obtain rfl := List.mem_singleton.1 mem
  rw [dated]
  exact ⟨Nat.le_refl _, Nat.le_refl _⟩

/-! ## Waits -/

/-- **A wait in which the cancellation comes first** of all alarms, and what is made of the alarm
that ends it. -/
theorem sleepUntil {rest : List (Alarm Wake)} {react : Wake → Run σ Unit}
    (result : Wake → Except Halt Unit) (reacts : ∀ wake w, react wake w = (result wake, w))
    (cancelled : result .cancelled = .error (.failed (.cancelled workspace)))
    (settled : ∀ a ∈ rest, a.due ≠ none → result a.meaning ≠ .error .stalled) :
    Cancels workspace c idle (Run.sleepUntil (⟨none, .cancelled⟩ :: rest) >>= react)
      (Run.sleepUntil (⟨some c, .cancelled⟩ :: rest) >>= react) := by
  have free : ∀ w : World σ, Alarm.next w.now (⟨none, .cancelled⟩ :: rest) =
      Alarm.next w.now rest := fun w => Alarm.next_cons_of_none rfl
  have ends : ∀ (alarms : List (Alarm Wake)) (w : World σ) (t : Instant) (wake : Wake),
      Alarm.next w.now alarms = some (t, wake) →
        (Run.sleepUntil alarms >>= react) w = (result wake, w.moved t) := by
    intro alarms w t wake next
    rw [bind_of_ok (Run.sleepUntil_eq next), reacts]
  have stalls : ∀ w : World σ, Alarm.next w.now rest = none →
      (Run.sleepUntil (⟨none, .cancelled⟩ :: rest) >>= react) w = (.error .stalled, w) := by
    intro w nothing
    refine bind_of_error ?_
    unfold Run.sleepUntil
    rw [free, nothing]
  refine ⟨fun w => ?_, fun w later => ?_⟩
  · cases next : Alarm.next w.now rest with
    | none =>
      rw [stalls w next]
      exact .refl w
    | some found =>
      obtain ⟨t, wake⟩ := found
      rw [ends _ w t wake ((free w).trans next)]
      exact .of_trace_eq (Alarm.next_le next).1 rfl
  · -- The cancellation ends the wait unless something else does before.
    have comes : (∀ t wake, Alarm.next w.now rest = some (t, wake) → c ≤ t) →
        (Run.sleepUntil (⟨some c, .cancelled⟩ :: rest) >>= react) w =
          (.error (.failed (.cancelled workspace)), w.moved c) := by
      intro notEarlier
      have first : Alarm.next w.now (⟨some c, .cancelled⟩ :: rest) =
          some (max w.now c, .cancelled) :=
        Alarm.next_cons_of_le rfl fun t wake next =>
          Nat.max_le.2 ⟨(Alarm.next_le next).1, notEarlier t wake next⟩
      rw [ends _ w _ _ first, cancelled, Nat.max_eq_right (Nat.le_of_lt later)]
    cases next : Alarm.next w.now rest with
    | none =>
      rw [stalls w next, comes (by rw [next]; nofun)]
      exact .suspended (.inr rfl) rfl (.of_trace_eq rfl) (List.forall_mem_nil _) (.of_trace_eq rfl)
        (List.forall_mem_nil _)
    | some found =>
      obtain ⟨t, wake⟩ := found
      rw [ends _ w t wake ((free w).trans next)]
      by_cases le : c ≤ t
      · rw [comes fun t' wake' same => by rw [next] at same; cases same; exact le]
        exact .suspended (.inl le) rfl (.of_trace_eq rfl) (List.forall_mem_nil _)
          (.of_trace_eq rfl) (List.forall_mem_nil _)
      · have before : t < c := Nat.lt_of_not_le le
        have same : Alarm.next w.now (⟨some c, .cancelled⟩ :: rest) = some (t, wake) := by
          refine Alarm.next_cons_of_lt (fun d isSet => ?_) next
          cases isSet
          exact Nat.lt_of_lt_of_le before (Nat.le_max_right _ _)
        rw [ends _ w t wake same]
        refine .finished before fun stalled => ?_
        obtain ⟨a, mem, d, isSet, -, rfl⟩ := Alarm.exists_of_next next
        exact absurd stalled (settled a mem (by rw [isSet]; nofun))

/-! ## Calls -/

section Calls

variable {pause pause' : Option Instant → Run σ Unit}

/-- A wait for what never comes. -/
theorem never (pauses : Cancels workspace c idle (pause none) (pause' none))
    (stuck : ∀ w w₁, pause none w ≠ (.ok (), w₁)) :
    Cancels workspace c idle (pause none >>= fun _ => (Run.halt .stalled : Run σ α))
      (pause' none >>= fun _ => Run.halt .stalled) where
  forward := pauses.forward.bind fun _ => World.Elapses.refl
  cut w later := (pauses.cut w later).bind (pauses.forward w) (fun _ => World.Elapses.refl)
    fun _ w₁ goesOn _ => absurd goesOn (stuck w w₁)

/-- A call that has begun is seen through unless it is cancelled. -/
theorem complete (pauses : ∀ due, Cancels workspace c idle (pause due) (pause' due))
    (stuck : ∀ w w₁, pause none w ≠ (.ok (), w₁)) (took : α → Answer) (progress : Progress σ α) :
    Cancels workspace c idle (Run.complete pause took progress)
      (Run.complete pause' took progress) := by
  have taken : ∀ a, Cancels workspace c idle
      (Run.note (fun t => .took t (took a)) >>= fun _ => (Pure.pure a : Run σ α))
      (Run.note (fun t => .took t (took a)) >>= fun _ => Pure.pure a) :=
    fun a => (note fun _ => rfl).bind fun _ => pure a
  cases progress with
  | answered a => exact taken a
  | unanswered => exact never (pauses none) stuck
  | waiting delay turn finish =>
    refine now.bind fun t => (pauses _).bind fun _ => (act finish).bind fun found => ?_
    cases found with
    | some a => exact taken a
    | none => exact never (pauses none) stuck

/-- **A call** is seen through unless it is cancelled. -/
theorem perform (pauses : ∀ due, Cancels workspace c idle (pause due) (pause' due))
    (stuck : ∀ w w₁, pause none w ≠ (.ok (), w₁)) (call : Call) (took : α → Answer)
    (begin : Instant → σ → σ × Progress σ α) :
    Cancels workspace c idle (Run.perform pause call took begin)
      (Run.perform pause' call took begin) :=
  (note fun _ => rfl).bind fun _ => now.bind fun t => (act (begin t)).bind fun progress =>
    complete pauses stuck took progress

end Calls

/-! ## Whenever the cancellation comes -/

/-- A run that is cut short obeys, if it does nothing where it is cancelled beforehand. -/
theorem obeys (h : Cancels workspace c idle x x') {w : World σ}
    (beforehand : c ≤ w.now → x' w = (.error (.failed (.cancelled workspace)), w)) :
    Obeys workspace c idle w (x w) (x' w) := by
  refine ⟨beforehand, h.cut w, ?_⟩
  rcases Nat.lt_or_ge w.now c with later | come
  · obtain ⟨past, led, dated⟩ := (h.forward w).during
    have cut := h.cut w later
    generalize x' w = run at cut
    cases cut with
    | finished ended settled =>
      exact ⟨past, led, fun e mem => Nat.lt_of_le_of_lt (dated e mem).2 ended⟩
    | suspended goesOn isNow led early leads late => exact ⟨_, led, early⟩
  · rw [beforehand come]
    exact ⟨[], .refl w, List.forall_mem_nil _⟩

end Cancels

end Run

end NodeProvisioning
