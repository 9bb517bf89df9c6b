import NodeProvisioning.Proofs.Run.Contract

/-!
# Waits that go on, and calls that are answered

A contract says what may become of a wait or a call.  Where it is known what the backend does and
that nothing from outside comes first, what they do can be given as an equation.

## Main definitions

* `Signals.SilentUntil` — nothing from outside ends a run up to an instant
* `Call.Answered` — when a call is answered and with what, if nothing else ends the run

## Main statements

* `Submission.Limits.pause_eq`, `Rounds.Limits.pause_eq` — a wait that goes on
* `Rounds.Limits.pause_eq_timeout` — a wait that ends with its deadline
* `Run.perform_eq` — a call that is answered
* `Run.perform_of_unanswered` — a call that is not
-/

namespace NodeProvisioning

variable {σ α : Type}

/-- **Nothing from outside** ends a run up to `t`: it is cancelled later, if at all, and it is not
left alone before. -/
structure Signals.SilentUntil (s : Signals) (t : Instant) : Prop where
  cancelLater : ∀ d, s.cancelAt = some d → t < d
  watched : ∀ d, s.abandonAt = some d → t ≤ d

/-- Where there are no signals, nothing comes from outside. -/
theorem Signals.SilentUntil.never (t : Instant) : ({} : Signals).SilentUntil t :=
  ⟨nofun, nofun⟩

/-- What does not come up to an instant does not come up to an earlier one. -/
theorem Signals.SilentUntil.mono {s : Signals} {t u : Instant} (h : s.SilentUntil u) (le : t ≤ u) :
    s.SilentUntil t where
  cancelLater d isSet := Nat.lt_of_le_of_lt le (h.cancelLater d isSet)
  watched d isSet := Nat.le_trans le (h.watched d isSet)

/-- A run that is to be cancelled later is not cancelled before. -/
theorem Signals.SilentUntil.isCancelled_eq_false {s : Signals} {now t : Instant}
    (silent : s.SilentUntil t) (le : now ≤ t) : s.isCancelled now = false :=
  Signals.isCancelled_eq_false fun d isSet => Nat.lt_of_le_of_lt le (silent.cancelLater d isSet)

/-! ## Waits -/

section Waits

variable {x : World σ} {t : Instant}

/-- Sleeping ends with the next alarm. -/
theorem Run.sleepUntil_eq {ω : Type} {alarms : List (Alarm ω)} {meaning : ω}
    (next : Alarm.next x.now alarms = some (t, meaning)) :
    Run.sleepUntil alarms x = (.ok meaning, x.moved t) := by
  unfold Run.sleepUntil
  rw [next]
  rfl

/-- What ends a sleep is an alarm that is set. -/
theorem Run.exists_of_sleepUntil {ω : Type} {alarms : List (Alarm ω)} {meaning : ω} {y : World σ}
    (h : Run.sleepUntil alarms x = (.ok meaning, y)) :
    ∃ a ∈ alarms, ∃ d, a.due = some d ∧ y.now = max x.now d ∧ a.meaning = meaning := by
  unfold Run.sleepUntil at h
  cases next : Alarm.next x.now alarms with
  | none =>
    rw [next] at h
    cases h
  | some found =>
    rw [next] at h
    cases h
    exact Alarm.exists_of_next next

/-- What comes later than `t` goes off later, where `t` is still to come. -/
theorem Alarm.max_lt_max {now d : Instant} (ahead : now ≤ t) (later : t < d) :
    max now t < max now d := by
  rw [Nat.max_eq_right ahead]
  exact Nat.lt_of_lt_of_le later (Nat.le_max_right _ _)

/-- What does not come before `t` does not go off before. -/
theorem Alarm.max_le_max {now d : Instant} (le : t ≤ d) : max now t ≤ max now d :=
  Nat.max_le.2 ⟨Nat.le_max_left _ _, Nat.le_trans le (Nat.le_max_right _ _)⟩

/-- **A wait during a submission goes on** at `t`, if nothing from outside comes up to then and the
deadline is neither past nor before it. -/
theorem Submission.Limits.pause_eq {l : Submission.Limits} (ahead : x.now ≤ t)
    (silent : l.signals.SilentUntil t)
    (inTime : ∀ d e, l.deadline = some (d, e) → x.now < d ∧ t ≤ d) :
    l.pause (some t) x = (.ok (), x.moved t) := by
  have open' : l.deadline.any (·.1 ≤ x.now) = false := by
    cases isSet : l.deadline with
    | none => rfl
    | some limit =>
      have notPast := (inTime limit.1 limit.2 isSet).1
      simpa using notPast
  have next : Alarm.next x.now (l.alarms x.now (some t)) = some (t, .due) := by
    have first : Alarm.next x.now (l.alarms x.now (some t)) = some (max x.now t, .due) := by
      rw [Submission.Limits.alarms, open', if_neg Bool.false_ne_true]
      refine Alarm.next_append [_] rfl ?_ ?_
      · intro a mem d isSet
        obtain rfl := List.mem_singleton.1 mem
        exact Alarm.max_lt_max ahead (silent.cancelLater d isSet)
      · intro a mem d isSet
        refine Alarm.max_le_max ?_
        rcases List.mem_cons.1 mem with rfl | mem
        · obtain ⟨limit, found, rfl⟩ := Option.map_eq_some_iff.1 isSet
          exact (inTime limit.1 limit.2 found).2
        · obtain rfl := List.mem_singleton.1 mem
          exact silent.watched d isSet
    rwa [Nat.max_eq_right ahead] at first
  unfold Submission.Limits.pause
  rw [Run.bind_apply, Run.now_apply]
  dsimp only
  rw [Run.bind_apply, Run.sleepUntil_eq next]
  rfl

/-- A wait during a submission goes on no earlier than it is to. -/
theorem Submission.Limits.due_of_pause {l : Submission.Limits} {due : Option Instant} {y : World σ}
    (h : l.pause due x = (.ok (), y)) : ∃ t, due = some t ∧ t ≤ y.now := by
  rcases Run.bind_cases h with ⟨now, x₁, clock, h⟩ | ⟨e, clock, -⟩
  · cases clock
    rcases Run.bind_cases h with ⟨wake, x₂, slept, h⟩ | ⟨e, -, same⟩
    · obtain ⟨a, mem, t, isSet, isNow, same⟩ := Run.exists_of_sleepUntil slept
      cases wake with
      | due =>
        cases h
        refine ⟨t, ?_, isNow ▸ Nat.le_max_right _ _⟩
        have isDue : a = ⟨due, .due⟩ := by
          unfold Submission.Limits.alarms at mem
          split at mem <;> simp only [List.mem_cons, List.not_mem_nil, or_false] at mem <;>
            rcases mem with rfl | rfl | rfl | rfl <;> first | rfl | cases same
        rw [isDue] at isSet
        exact isSet
      | cancelled => cases h
      | expired => cases limit : l.deadline <;> simp only [limit] at h <;> cases h
      | abandoned => cases h
    · cases same
  · cases clock

variable {l : Rounds.Limits}

/-- A wait between looks that goes on does so when it is to, or at once if that is past. -/
theorem Rounds.Limits.now_of_pause {outstanding : List ClaimKey} {due : Option Instant}
    {y : World σ} (h : l.pause outstanding due x = (.ok (), y)) :
    ∃ t, due = some t ∧ y.now = max x.now t := by
  rcases Run.bind_cases h with ⟨wake, x₁, slept, h⟩ | ⟨e, -, same⟩
  · obtain ⟨a, mem, t, isSet, isNow, same⟩ := Run.exists_of_sleepUntil slept
    cases wake with
    | due =>
      cases h
      refine ⟨t, ?_, isNow⟩
      have isDue : a = ⟨due, .due⟩ := by
        simp only [Rounds.Limits.alarms, List.mem_cons, List.not_mem_nil, or_false] at mem
        rcases mem with rfl | rfl | rfl | rfl <;> first | rfl | cases same
      rw [isDue] at isSet
      exact isSet
    | cancelled => cases h
    | expired => cases h
    | abandoned => cases h
  · cases same

/-- A wait between looks goes on no earlier than it is to. -/
theorem Rounds.Limits.due_of_pause {outstanding : List ClaimKey} {due : Option Instant}
    {y : World σ} (h : l.pause outstanding due x = (.ok (), y)) :
    ∃ t, due = some t ∧ t ≤ y.now := by
  obtain ⟨t, isSet, isNow⟩ := now_of_pause h
  exact ⟨t, isSet, isNow ▸ Nat.le_max_right _ _⟩

/-- **A wait between looks goes on** at `t`, or at once if that is past, where nothing ends the run
up to an instant which neither is later than. -/
theorem Rounds.Limits.pause_eq_of_le {horizon : Instant} (outstanding : List ClaimKey)
    (notPast : x.now ≤ horizon) (soon : t ≤ horizon) (silent : l.signals.SilentUntil horizon)
    (inTime : horizon < l.deadline) :
    l.pause outstanding (some t) x = (.ok (), x.moved (max x.now t)) := by
  have later {d : Instant} (after : horizon < d) : max x.now t < max x.now d :=
    Nat.lt_of_le_of_lt (Nat.max_le.2 ⟨notPast, soon⟩)
      (Nat.lt_of_lt_of_le after (Nat.le_max_right _ _))
  have next : Alarm.next x.now (l.alarms (some t)) = some (max x.now t, .due) := by
    refine Alarm.next_append [_, _] rfl ?_ ?_
    · intro a mem d isSet
      rcases List.mem_cons.1 mem with rfl | mem
      · exact later (silent.cancelLater d isSet)
      · obtain rfl := List.mem_singleton.1 mem
        cases isSet
        exact later inTime
    · intro a mem d isSet
      obtain rfl := List.mem_singleton.1 mem
      exact Alarm.max_le_max (Nat.le_trans soon (silent.watched d isSet))
  unfold Rounds.Limits.pause
  rw [Run.bind_apply, Run.sleepUntil_eq next]
  rfl

/-- **A wait between looks goes on** at `t`, if nothing from outside comes up to then and the
deadline comes later. -/
theorem Rounds.Limits.pause_eq (outstanding : List ClaimKey) (ahead : x.now ≤ t)
    (silent : l.signals.SilentUntil t) (inTime : t < l.deadline) :
    l.pause outstanding (some t) x = (.ok (), x.moved t) := by
  rw [pause_eq_of_le outstanding ahead (Nat.le_refl t) silent inTime, Nat.max_eq_right ahead]

/-- **A wait between looks ends with its deadline**, if nothing from outside comes up to then and
what it waits for comes no earlier. -/
theorem Rounds.Limits.pause_eq_timeout (outstanding : List ClaimKey) (due : Option Instant)
    (ahead : x.now ≤ l.deadline) (silent : l.signals.SilentUntil l.deadline)
    (late : ∀ t, due = some t → l.deadline ≤ t) :
    l.pause outstanding due x =
      (.error (.failed (l.timeout outstanding)), x.moved l.deadline) := by
  have next : Alarm.next x.now (l.alarms due) = some (max x.now l.deadline, .expired) := by
    refine Alarm.next_append [_] rfl ?_ ?_
    · intro a mem d isSet
      obtain rfl := List.mem_singleton.1 mem
      exact Alarm.max_lt_max ahead (silent.cancelLater d isSet)
    · intro a mem d isSet
      refine Alarm.max_le_max ?_
      rcases List.mem_cons.1 mem with rfl | mem
      · exact late d isSet
      · obtain rfl := List.mem_singleton.1 mem
        exact silent.watched d isSet
  rw [Nat.max_eq_right ahead] at next
  unfold Rounds.Limits.pause
  rw [Run.bind_apply, Run.sleepUntil_eq next]
  rfl

/-- A wait that is open passes the check. -/
theorem Rounds.Limits.check_eq (outstanding : List ClaimKey)
    (silent : l.signals.SilentUntil t) (notPast : x.now ≤ t) (early : x.now < l.deadline) :
    l.check outstanding x = (.ok (), x) := by
  unfold Rounds.Limits.check
  rw [Run.bind_of_ok (Run.now_apply x), silent.isCancelled_eq_false notPast,
    if_neg Bool.false_ne_true, if_neg (Nat.not_le.2 early)]
  rfl

/-- A wait at its deadline does not pass the check. -/
theorem Rounds.Limits.check_eq_timeout (outstanding : List ClaimKey)
    (silent : l.signals.SilentUntil l.deadline) (isNow : x.now = l.deadline) :
    l.check outstanding x = (.error (.failed (l.timeout outstanding)), x) := by
  unfold Rounds.Limits.check
  rw [Run.bind_of_ok (Run.now_apply x), silent.isCancelled_eq_false (Nat.le_of_eq isNow),
    if_neg Bool.false_ne_true, if_pos (Nat.le_of_eq isNow.symm)]
  rfl

end Waits

/-! ## Calls -/

/-- **A call is answered** with `a`, if nothing else ends the run: when that is, and the state in
which the backend is then. -/
inductive Call.Answered (begin : Instant → σ → σ × Progress σ α) (x : World σ) (a : α) :
    Instant → σ → Prop
  /-- At once. -/
  | atOnce {after : σ} (begun : begin x.now x.state = (after, .answered a)) :
      Answered begin x a x.now after
  /-- When it goes on. -/
  | later {between after : σ} {delay turn : Nat} {finish : σ → σ × Option α}
      (begun : begin x.now x.state = (between, .waiting delay turn finish))
      (finished : finish between = (after, some a)) :
      Answered begin x a (x.now + delay) after

variable {begin : Instant → σ → σ × Progress σ α} {x : World σ} {a : α} {t : Instant} {after : σ}

theorem Call.Answered.now_le (h : Call.Answered begin x a t after) : x.now ≤ t := by
  cases h with
  | atOnce begun => exact Nat.le_refl _
  | later begun finished => exact Nat.le_add_right _ _

/-- **A call that is answered** leaves its beginning and its answer, if the wait for it goes on. -/
theorem Run.perform_eq {pause : Option Instant → Run σ Unit} {call : Call} {took : α → Answer}
    (h : Call.Answered begin x a t after)
    (goesOn : ∀ y : World σ, y.now = x.now → pause (some t) y = (.ok (), y.moved t)) :
    Run.perform pause call took begin x =
      (.ok a, ⟨t, after, .took t (took a) :: .began x.now call :: x.trace⟩) := by
  have whole : Run.perform pause call took begin x =
      Run.complete pause took (begin x.now x.state).2 (x.begun call begin) := rfl
  rw [whole, World.begun]
  cases h with
  | atOnce begun =>
    rw [begun]
    rfl
  | @later between after delay turn finish begun finished =>
    rw [begun]
    unfold Run.complete
    dsimp only
    rw [bind_apply, now_apply]
    dsimp only
    rw [bind_apply, goesOn ⟨x.now, between, .began x.now call :: x.trace⟩ rfl]
    dsimp only
    rw [bind_apply]
    simp only [Run.act, World.moved, finished]
    rfl

/-- **A call that is never answered** ends the run: as the wait for it does, or because nothing more
happens. -/
theorem Run.perform_of_unanswered {E : Halt → Prop} {pause : Option Instant → Run σ Unit}
    {call : Call} {took : α → Answer} (never : ∀ a t after, ¬ Call.Answered begin x a t after)
    (pauses : ∀ due s, Run.Contract (fun v => v.state = s) (pause due) (fun _ v => v.state = s)
      fun e _ => E e) (stalls : E .stalled) :
    ∃ e y, Run.perform pause call took begin x = (.error e, y) ∧ E e := by
  have hangs (s : σ) : Run.Contract (fun v => v.state = s)
      (pause none >>= fun _ => (Run.halt .stalled : Run σ α)) (fun _ _ => False) fun e _ => E e :=
    (pauses none s).bind fun _ => .halt fun _ _ => stalls
  have ended : Run.Ended (fun _ _ => False) (fun e _ => E e)
      (Run.complete pause took (begin x.now x.state).2 (x.begun call begin)) := by
    rw [World.begun]
    rcases begun : begin x.now x.state with ⟨between, a | _ | ⟨delay, turn, finish⟩⟩
    · exact absurd (.atOnce begun) (never a _ _)
    · exact hangs between _ rfl
    · unfold Run.complete
      dsimp only
      rw [bind_apply, now_apply]
      refine ((pauses _ between).bind fun _ => ?_) ⟨x.now, between, _⟩ rfl
      -- The wait leaves the backend alone, so the call finishes from where it began.
      rintro v rfl
      rw [bind_apply, Run.act]
      rcases finished : finish v.state with ⟨after, none | a⟩
      · exact hangs after _ rfl
      · exact absurd (.later begun finished) (never a _ _)
  have whole : Run.perform pause call took begin x =
      Run.complete pause took (begin x.now x.state).2 (x.begun call begin) := rfl
  rw [← whole] at ended
  rcases ran : Run.perform pause call took begin x with ⟨e | a, y⟩ <;> rw [ran] at ended
  · exact ⟨e, y, rfl, ended⟩
  · exact ended.elim

end NodeProvisioning
