import NodeProvisioning.Proofs.Provisioning.Cancellation
import NodeProvisioning.Proofs.Rounds.Keeping
import NodeProvisioning.Proofs.Rounds.Scripted

/-!
# A wait terminates

Nothing in a wait counts its rounds.  A round may take no time at all, when everything is answered
at once, and it may hang for ever on a look that is never answered.  What bounds the wait is the
clock alone: the rest between two rounds lasts an interval, and neither a round nor a rest goes on
past the deadline.

So the rounds are counted along the steps of `Rounds.advance`, and the count is compared with the
clock: `Paced` says that it is never ahead of the intervals that have passed.  A step keeps this, as
time goes on in every step and by an interval in a rest.  And since a round begins only before the
deadline, the count is bounded by the intervals that go into the time up to it.

That the wait does not stall needs another argument, for the recursion has a bound of its own and
stalls where it runs out.  Here a cancellation *after* the deadline is brought in.  It finds the
wait over, as the deadline comes first; but it would find a stalled wait suspended.

## Main definitions

* `Rounds.Begun` — steps in which some number of rounds begin
* `Rounds.BeginsAt` — when a round begins
* `Rounds.Ticks`, `Rounds.Paced` — what a step does to the clock, and what all steps keep

## Main statements

* `Rounds.step_ticks`, `Rounds.Begun.paced` — the clock of a step, and of any number of steps
* `Rounds.Reaches.begun` — the rounds along any steps are counted
* `Rounds.awaitUntil_now_le`, `Rounds.awaitUntil_ne_stalled` — a wait is over by its deadline
* `Rounds.awaitUntil_terminates` — how many rounds begin, when, and how the wait ends
-/

namespace NodeProvisioning.Rounds

open Run (bind_cases)

variable {σ : Type} {b : Backend σ} {pollInterval : Duration} {l : Limits}

/-! ## The clock of a step -/

section Clock

variable {outstanding : List ClaimKey} {key : ClaimKey} {a : Sighting} {w w' : World σ}

/-- Beginning a look takes no time. -/
theorem begin_now {r : Except Halt (Sighting ⊕ Look σ)} (h : begin b key w = (r, w')) :
    w'.now = w.now := by
  simp only [begin, Run.bind_apply, Run.note, Run.now_apply, Run.act] at h
  cases progress : (b.get w.now key w.state).2 <;> rw [progress] at h <;> cases h <;> rfl

/-- Taking an answer takes no time. -/
theorem take_now {r : Except Halt (List ClaimKey)} (h : take outstanding key a w = (r, w')) :
    w'.now = w.now := by
  rw [take_eq] at h
  exact congrArg (·.2.now) h.symm

/-- What the backend does takes no time. -/
theorem act_now {α : Type} {f : σ → σ × α} {r : Except Halt α} (h : Run.act f w = (r, w')) :
    w'.now = w.now :=
  congrArg (·.2.now) h.symm

/-- **What a step does to the clock.**  A round begins before the deadline and takes no time to
begin; to an opening leads only the rest after a round, which lasts an interval. -/
inductive Ticks (p : Duration) (deadline : Instant) :
    Stage σ → Instant → Stage σ → Instant → Prop
  | opens {stage : Stage σ} {t : Instant} (began : stage ≠ .opening) (early : t < deadline) :
      Ticks p deadline .opening t stage t
  | rests {t u : Instant} (later : t + p.nanos ≤ u) : Ticks p deadline .resting t .opening u
  | goesOn {stage stage' : Stage σ} {t u : Instant} (under : stage ≠ .opening)
      (still : stage' ≠ .opening) (le : t ≤ u) : Ticks p deadline stage t stage' u

theorem step_ticks {x y : Standing σ × World σ} (step : Step b pollInterval l x y) :
    Ticks pollInterval l.deadline x.1.stage x.2.now y.1.stage y.2.now := by
  obtain ⟨⟨outstanding, stage⟩, w⟩ := x
  obtain ⟨next, w'⟩ := y
  rw [Step] at step
  dsimp only at step ⊢
  cases stage with
  | opening =>
    rw [advance] at step
    rcases bind_cases step with ⟨_, w₁, checked, rest⟩ | ⟨e, -, same⟩
    · cases rest
      obtain ⟨rfl, isOpen⟩ :=
        (Limits.check_contract (J := fun v => v = w) outstanding).ok rfl checked
      exact .opens (by simp) isOpen.lt_deadline
    · cases same
  | starting ahead looks =>
    cases ahead with
    | nil =>
      cases step
      exact .goesOn (by simp) (by simp) (Nat.le_refl _)
    | cons key ahead =>
      rw [advance] at step
      rcases bind_cases step with ⟨a | look, w₁, began, rest⟩ | ⟨e, -, same⟩
      · rcases bind_cases rest with ⟨left, w₂, took, last⟩ | ⟨e, -, same⟩
        · cases last
          have isNow : w'.now = w.now := (take_now took).trans (begin_now began)
          exact .goesOn (by simp) (by simp) (Nat.le_of_eq isNow.symm)
        · cases same
      · cases rest
        exact .goesOn (by simp) (by simp) (Nat.le_of_eq (begin_now began).symm)
      · cases same
  | collecting lost looks =>
    cases looks with
    | cons look looks =>
      rw [advance] at step
      cases due : look.due with
      | none =>
        rw [due] at step
        cases step
        exact .goesOn (by simp) (by simp) (Nat.le_refl _)
      | some t =>
        rw [due] at step
        rcases bind_cases step with ⟨_, w₁, paused, rest⟩ | ⟨e, -, same⟩
        · obtain ⟨t, -, isNow⟩ := Limits.now_of_pause paused
          have later : w.now ≤ w₁.now := isNow ▸ Nat.le_max_left _ _
          rcases bind_cases rest with ⟨_ | a, w₂, acted, last⟩ | ⟨e, -, same⟩
          · cases last
            have isNow : w'.now = w₁.now := act_now acted
            exact .goesOn (by simp) (by simp) (Nat.le_trans later (Nat.le_of_eq isNow.symm))
          · rcases bind_cases last with ⟨left, w₃, took, last⟩ | ⟨e, -, same⟩
            · cases last
              have isNow : w'.now = w₁.now := (take_now took).trans (act_now acted)
              exact .goesOn (by simp) (by simp) (Nat.le_trans later (Nat.le_of_eq isNow.symm))
            · cases same
          · cases same
        · cases same
    | nil =>
      cases lost with
      | nil =>
        rw [advance] at step
        by_cases empty : outstanding.isEmpty
        · rw [if_pos empty] at step
          cases step
        · rw [if_neg empty] at step
          cases step
          exact .goesOn (by simp) (by simp) (Nat.le_refl _)
      | cons key lost =>
        rw [advance] at step
        rcases bind_cases step with ⟨_, w₁, paused, rest⟩ | ⟨e, -, same⟩
        · cases rest
        · cases same
  | resting =>
    rw [advance] at step
    rcases bind_cases step with ⟨t, w₁, clock, rest⟩ | ⟨e, -, same⟩
    · cases clock
      rcases bind_cases rest with ⟨_, w₂, paused, last⟩ | ⟨e, -, same⟩
      · cases last
        obtain ⟨t, isSet, later⟩ := Limits.due_of_pause paused
        cases isSet
        exact .rests later
      · cases same
    · cases same

end Clock

/-! ## Counting rounds -/

/-- **Steps in which `n` rounds begin.** -/
inductive Begun (b : Backend σ) (pollInterval : Duration) (l : Limits) (x : Standing σ × World σ) :
    Nat → Standing σ × World σ → Prop
  /-- No step. -/
  | none : Begun b pollInterval l x 0 x
  /-- The next round begins. -/
  | opens {n : Nat} {y z : Standing σ × World σ} (before : Begun b pollInterval l x n y)
      (opening : y.1.stage = .opening) (step : Step b pollInterval l y z) :
      Begun b pollInterval l x (n + 1) z
  /-- Anything else is done. -/
  | goesOn {n : Nat} {y z : Standing σ × World σ} (before : Begun b pollInterval l x n y)
      (under : y.1.stage ≠ .opening) (step : Step b pollInterval l y z) :
      Begun b pollInterval l x n z

/-- The round after `n` others begins at `t`. -/
def BeginsAt (b : Backend σ) (pollInterval : Duration) (l : Limits) (x : Standing σ × World σ)
    (n : Nat) (t : Instant) : Prop :=
  ∃ y z, Begun b pollInterval l x n y ∧ y.1.stage = .opening ∧ Step b pollInterval l y z ∧
    z.2.now = t

/-- **Rounds are paced.**  When `n` rounds have begun, and the next is about to begin, at least as
many intervals have passed since the start; and one less while the last of them is under way. -/
inductive Paced (p : Duration) (start : Instant) : Nat → Stage σ → Instant → Prop
  | due {n : Nat} {t : Instant} (past : start + n * p.nanos ≤ t) : Paced p start n .opening t
  | under {n : Nat} {stage : Stage σ} {t : Instant} (began : stage ≠ .opening)
      (past : start + n * p.nanos ≤ t) : Paced p start (n + 1) stage t

namespace Paced

variable {p : Duration} {start deadline t u : Instant} {n : Nat} {stage stage' : Stage σ}

/-- A round that is about to begin does so at once. -/
theorem opens (h : Paced p start n (.opening : Stage σ) t)
    (ticks : Ticks p deadline .opening t stage u) :
    Paced p start (n + 1) stage u ∧ start + n * p.nanos ≤ u ∧ u < deadline := by
  cases h with
  | due past =>
    cases ticks with
    | opens began early => exact ⟨.under began past, past, early⟩
    | goesOn under still le => exact absurd rfl under
  | under began past => exact absurd rfl began

/-- Anything else that is done keeps the pace, the rest between two rounds included. -/
theorem goesOn (h : Paced p start n stage t) (under : stage ≠ .opening)
    (ticks : Ticks p deadline stage t stage' u) : Paced p start n stage' u := by
  cases h with
  | due past => exact absurd rfl under
  | @under n _ _ began past =>
    cases ticks with
    | opens => exact absurd rfl under
    | rests later =>
      refine .due ?_
      calc start + (n + 1) * p.nanos = start + n * p.nanos + p.nanos := by
            rw [Nat.succ_mul, Nat.add_assoc]
        _ ≤ t + p.nanos := Nat.add_le_add_right past _
        _ ≤ u := later
    | goesOn under still le => exact .under still (Nat.le_trans past le)

end Paced

section Counting

variable {x y : Standing σ × World σ} {n : Nat} {t : Instant}

/-- Wherever steps lead, some number of rounds has begun. -/
theorem Reaches.begun (reached : Reaches b pollInterval l x y) :
    ∃ n, Begun b pollInterval l x n y := by
  induction reached with
  | refl => exact ⟨0, .none⟩
  | @tail y z _ step ih =>
    obtain ⟨n, before⟩ := ih
    by_cases opening : y.1.stage = .opening
    · exact ⟨n + 1, before.opens opening step⟩
    · exact ⟨n, before.goesOn opening step⟩

/-- **Steps keep the pace.** -/
theorem Begun.paced (begun : Begun b pollInterval l x n y) (first : x.1.stage = .opening) :
    Paced pollInterval x.2.now n y.1.stage y.2.now := by
  induction begun with
  | none =>
    rw [first]
    exact .due (by simp)
  | opens before opening step ih =>
    have ticks := step_ticks step
    rw [opening] at ih ticks
    exact (ih.opens ticks).1
  | goesOn before under step ih => exact ih.goesOn under (step_ticks step)

/-- **When a round begins**: no earlier than its pace allows, and before the deadline. -/
theorem BeginsAt.bounds (begins : BeginsAt b pollInterval l x n t) (first : x.1.stage = .opening) :
    x.2.now + n * pollInterval.nanos ≤ t ∧ t < l.deadline := by
  obtain ⟨y, z, begun, opening, step, rfl⟩ := begins
  have ticks := step_ticks step
  have paced := begun.paced first
  rw [opening] at paced ticks
  exact (paced.opens ticks).2

/-- Of the rounds that have begun the last began at some time. -/
theorem Begun.beginsAt (begun : Begun b pollInterval l x (n + 1) y) :
    ∃ t, BeginsAt b pollInterval l x n t := by
  generalize count : n + 1 = m at begun
  induction begun with
  | none => cases count
  | @opens m y z before opening step ih =>
    cases count
    exact ⟨_, y, z, before, opening, step, rfl⟩
  | goesOn before under step ih => exact ih count

/-- **How many rounds begin** before a deadline some time ahead. -/
theorem Begun.le_roundsWithin {span : Nat} (begun : Begun b pollInterval l x n y)
    (first : x.1.stage = .opening) (interval : 0 < pollInterval.nanos)
    (ahead : l.deadline = x.2.now + span) : n ≤ roundsWithin pollInterval span := by
  cases n with
  | zero => exact Nat.zero_le _
  | succ n =>
    obtain ⟨t, begins⟩ := begun.beginsAt
    obtain ⟨past, early⟩ := begins.bounds first
    rw [ahead] at early
    refine Nat.succ_le_of_lt ((lt_roundsWithin_iff interval).2 ?_)
    exact Nat.lt_of_add_lt_add_left (Nat.lt_of_le_of_lt past early)

end Counting

/-! ## The end -/

section Ending

variable {workspace : String} {deadline : Instant} {cancelAt : Option Instant}
variable {keys : List ClaimKey} {w : World σ}

/-- **A wait is over by its deadline**, however it ends. -/
theorem awaitUntil_now_le {signals : Signals} (ahead : w.now ≤ deadline) :
    (awaitUntil b pollInterval signals workspace deadline keys w).2.now ≤ deadline := by
  have lasts : World.Lasts (fun v : World σ => v.now ≤ deadline) (some deadline) :=
    fun v t inTime _ bound =>
      Nat.le_trans (bound deadline rfl) (Nat.max_le.2 ⟨inTime, Nat.le_refl _⟩)
  have looks : b.LooksUphold (fun v : World σ => v.now ≤ deadline)
      (Limits.IsOpen ⟨signals, workspace, deadline⟩) := fun key =>
    Call.Leads.of_events (fun _ _ inTime => inTime) (fun _ inTime _ => inTime)
      fun _ _ inTime _ => inTime
  exact (awaitUntil_contract lasts looks).holds ahead

/-- A wait without signals does not stall if time passes between its rounds.  Otherwise it would be
suspended by a cancellation after its deadline. -/
theorem awaitUntil_free_ne_stalled (interval : 0 < pollInterval.nanos) (ahead : w.now ≤ deadline) :
    (awaitUntil b pollInterval {} workspace deadline keys w).1 ≠ .error .stalled := by
  have cut := (awaitUntil_cancels keys : Run.Cancels workspace (deadline + 1)
    (pollInterval.nanos = 0) (awaitUntil b pollInterval {} workspace deadline keys) _).cut w
      (Nat.lt_succ_of_le ahead)
  have inTime : (awaitUntil b pollInterval (.cancelledAt (deadline + 1)) workspace deadline keys
      w).2.now ≤ deadline := awaitUntil_now_le ahead
  exact cut.free_ne_stalled (Nat.ne_of_gt interval) (Nat.lt_succ_of_le inTime)

/-- **A wait does not stall** if time passes between its rounds, whether or not it is cancelled. -/
theorem awaitUntil_ne_stalled (interval : 0 < pollInterval.nanos) (ahead : w.now ≤ deadline) :
    (awaitUntil b pollInterval { cancelAt } workspace deadline keys w).1 ≠ .error .stalled := by
  have free : (awaitUntil b pollInterval {} workspace deadline keys w).1 ≠ .error .stalled :=
    awaitUntil_free_ne_stalled interval ahead
  cases cancelAt with
  | none => exact free
  | some c =>
    by_cases none : keys = []
    · subst none
      nofun
    · rcases Nat.lt_or_ge w.now c with later | come
      · exact ((awaitUntil_cancels keys).cut w later).ne_stalled free
      · show (awaitUntil b pollInterval (.cancelledAt c) workspace deadline keys w).1 ≠ _
        rw [awaitUntil_eq_cancelled none come]
        nofun

/-- **A wait terminates.**  Let there be some time between its rounds and a deadline some time
ahead, and let the backend do what it will.  Then the round after `n` others begins at least `n`
intervals after the wait and before the deadline, so no more begin than the interval goes into the
time, rounded up.  The wait is over by the deadline, and it ends with success or with an error: its
steps from the first round on lead to that end. -/
theorem awaitUntil_terminates (b : Backend σ) (interval : 0 < pollInterval.nanos)
    (cancelAt : Option Instant) (workspace : String) (span : Nat) (keys : List ClaimKey)
    (w : World σ) :
    let l : Limits := ⟨{ cancelAt }, workspace, w.now + span⟩
    let first : Standing σ × World σ := (Standing.first keys, w)
    let run := awaitUntil b pollInterval { cancelAt } workspace (w.now + span) keys w
    (∀ n t, BeginsAt b pollInterval l first n t →
      w.now + n * pollInterval.nanos ≤ t ∧ t < w.now + span) ∧
    (∀ n y, Begun b pollInterval l first n y → n ≤ roundsWithin pollInterval span) ∧
    run.2.now ≤ w.now + span ∧
    (run.1 = .ok () ∨ ∃ e, run.1 = .error (.failed e)) ∧
    (keys ≠ [] → Ends b pollInterval l first run.1 run.2) := by
  intro l first run
  have opening : first.1.stage = .opening := rfl
  have ahead : w.now ≤ w.now + span := Nat.le_add_right _ _
  have goesOn : run.1 ≠ .error .stalled := awaitUntil_ne_stalled interval ahead
  have ran : awaitUntil b pollInterval { cancelAt } workspace (w.now + span) keys w =
    (run.1, run.2) := rfl
  refine ⟨fun n t begins => begins.bounds opening,
    fun n y begun => begun.le_roundsWithin opening interval rfl, awaitUntil_now_le ahead, ?_,
    fun some => ?_⟩
  · obtain ⟨events, -, ending⟩ := awaitUntil_ending ran
    generalize run.1 = r at ending goesOn
    cases ending with
    | ready => exact .inl rfl
    | fatal => exact .inr ⟨_, rfl⟩
    | cut tally cuts =>
      cases cuts with
      | cancelled => exact .inr ⟨_, rfl⟩
      | expired => exact .inr ⟨_, rfl⟩
      | stalled => exact absurd rfl goesOn
  · rcases awaitUntil_stops ran with ⟨none, -⟩ | ⟨-, ends | ⟨stalled, -⟩⟩
    · exact absurd none some
    · exact ends
    · exact absurd stalled goesOn

/-- A wait of twelve seconds, with a round every five, for a claim at which no look is ever
answered, has no more than three rounds and is over in time. -/
theorem awaitUntil_terminates_hanging :
    let store := ({} : Store).hang ⟨"kaito", "a"⟩
    let span := (Duration.ofSeconds 12).nanos
    let run := awaitUntil Store.backend (.ofSeconds 5) {} "falcon" (0 + span) [⟨"kaito", "a"⟩]
      (.start 0 store)
    (∀ n y, Begun Store.backend (.ofSeconds 5) ⟨{}, "falcon", 0 + span⟩
      (Standing.first [⟨"kaito", "a"⟩], .start 0 store) n y → n ≤ 3) ∧
    run.2.now ≤ span ∧ run.1 = .error (.failed (.timeout "falcon" ["a"])) := by
  intro store span run
  have interval : 0 < (Duration.ofSeconds 5).nanos := by decide
  obtain ⟨-, few, inTime, -⟩ := awaitUntil_terminates Store.backend interval none "falcon" span
    [⟨"kaito", "a"⟩] (.start 0 store)
  have three : roundsWithin (.ofSeconds 5) span = 3 := by decide
  exact ⟨fun n y begun => three ▸ few n y begun, Nat.zero_add span ▸ inTime, by decide +kernel⟩

end Ending

end NodeProvisioning.Rounds
