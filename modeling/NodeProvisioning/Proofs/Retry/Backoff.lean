import Mathlib.Algebra.Order.Field.Basic
import Mathlib.Tactic.NormNum
import NodeProvisioning.Proofs.Retry.Stopping

/-!
# How long retrying sleeps

The delay is multiplied after each try and cut off at the cap, and what is multiplied next is the
delay that was cut off.  Cutting off at every step comes to the same as cutting off once: while the
product stays under the cap nothing is lost, and the product can only rise above the cap if the
factor is at least one, in which case it stays there and the delay stays at the cap
(`Retry.delayAt_eq_min`).  The factor around one with which a sleep departs from its delay is not
carried on.

A run need not end, and of a run that does not end no report is given.  To speak of its sleeps all
the same, the loop is cut into single tries: a `Retry.Loop` is what it has in hand before a try, and
`Retry.attempt` is one try with the sleep after it.

## Main definitions

* `Retry.Loop`, `Retry.attempt`, `Retry.Reached` — the loop before a try, one try, and any number
* `Retry.Slept` — the sleeps of a run up to some point of it

## Main statements

* `Retry.runFrom_eq_attempts` — single tries do what the loop does
* `Retry.Slept.eq_sleepsAfter` — the sleeps of a run are determined by their number
* `Retry.delayAt_eq_min`, `Retry.delayAt_succ_le` — the delays in closed form, and their bound
* `Retry.run_backoff` — how long a run sleeps
-/

namespace NodeProvisioning.Retry

variable {σ ε α : Type}

/-! ## Single tries -/

/-- What the loop has in hand before a try. -/
structure Loop (σ : Type) where
  /-- The count of the tries. -/
  count : UInt32
  /-- How long the next sleep is, apart from its factor. -/
  delay : Rat
  /-- The sleeps so far, the latest first. -/
  sleeps : List Rat
  /-- The state of the operation. -/
  state : σ

section Tries

variable (config : RetryConfig) (shouldRetry : ε → Bool) (jitter : Nat → Rat)
  (operation : σ → σ × Except ε α) (s : σ)

/-- The loop before the first try. -/
def Loop.first : Loop σ := ⟨0, config.initialDelay.toRat, [], s⟩

/-- **One try**, with the sleep after it unless its result is the last. -/
def attempt (l : Loop σ) : Except (σ × Report ε α) (Loop σ) :=
  let (s, result) := operation l.state
  let tries := l.sleeps.length + 1
  if stops config.maxAttempts shouldRetry (l.count + 1).toNat result then
    .error (s, ⟨.returned result, tries, l.sleeps.reverse⟩)
  else
    let sleeps := l.delay * jitter tries :: l.sleeps
    match nextDelay config.multiplier config.maxDelay.toRat l.delay with
    | none => .error (s, ⟨.negativeDelay, tries, sleeps.reverse⟩)
    | some delay => .ok ⟨l.count + 1, delay, sleeps, s⟩

/-- One try after the other, so many at most. -/
def attempts : Nat → Loop σ → σ × Option (Report ε α)
  | 0, l => (l.state, none)
  | fuel + 1, l =>
    match attempt config shouldRetry jitter operation l with
    | .error (s, report) => (s, some report)
    | .ok l => attempts fuel l

/-- **The loops that a run reaches** before its tries. -/
inductive Reached : Loop σ → Prop where
  | first : Reached (.first config s)
  | next {l l' : Loop σ} (before : Reached l)
      (step : attempt config shouldRetry jitter operation l = .ok l') : Reached l'

/-- **The sleeps of a run** up to some point of it. -/
inductive Slept : List Rat → Prop where
  /-- Up to one of its tries. -/
  | before {l : Loop σ} (reached : Reached config shouldRetry jitter operation s l) :
      Slept l.sleeps.reverse
  /-- Up to its end. -/
  | atEnd {fuel : Nat} {s' : σ} {report : Report ε α}
      (ended : run config shouldRetry jitter operation fuel s = (s', some report)) :
      Slept report.sleeps

/-- **Single tries do what the loop does.** -/
theorem runFrom_eq_attempts (fuel : Nat) (l : Loop σ) :
    runFrom config shouldRetry jitter operation fuel l.count l.delay l.sleeps l.state =
      attempts config shouldRetry jitter operation fuel l := by
  induction fuel generalizing l with
  | zero => rfl
  | succ fuel ih =>
    rw [runFrom, attempts, attempt]
    dsimp only
    split
    · rfl
    · cases nextDelay config.multiplier config.maxDelay.toRat l.delay with
      | none => rfl
      | some delay => exact ih ⟨_, _, _, _⟩

end Tries

/-! ## The sleeps of a run -/

section Sleeps

variable {config : RetryConfig} {shouldRetry : ε → Bool} {jitter : Nat → Rat}
  {operation : σ → σ × Except ε α} {s : σ} {l l' : Loop σ}

/-- **What a loop before a try has slept** is determined by how often it slept, and so is its
delay. -/
structure Loop.OnCourse (config : RetryConfig) (jitter : Nat → Rat) (l : Loop σ) : Prop where
  delay_eq : l.delay = delayAt config l.sleeps.length
  sleeps_eq : l.sleeps.reverse = sleepsAfter config jitter l.sleeps.length

namespace Loop.OnCourse

theorem start : (Loop.first config s).OnCourse config jitter := ⟨rfl, rfl⟩

/-- One more sleep takes the delay that belongs to it. -/
theorem reverse_cons (h : l.OnCourse config jitter) :
    (l.delay * jitter (l.sleeps.length + 1) :: l.sleeps).reverse =
      sleepsAfter config jitter (l.sleeps.length + 1) := by
  rw [List.reverse_cons, h.sleeps_eq, sleepsAfter_succ, ← h.delay_eq]

/-- **One try** keeps the course. -/
theorem next (h : l.OnCourse config jitter)
    (step : attempt config shouldRetry jitter operation l = .ok l') :
    l'.OnCourse config jitter ∧ l'.sleeps.length = l.sleeps.length + 1 := by
  unfold attempt at step
  dsimp only at step
  split at step
  · cases step
  · split at step
    · cases step
    · next delay isNext =>
      cases step
      refine ⟨⟨?_, ?_⟩, rfl⟩
      · rw [h.delay_eq] at isNext
        show delay = delayAt config (l.sleeps.length + 1)
        rw [delayAt, isNext, Option.getD_some]
      · exact h.reverse_cons

/-- The report of the last try tells the sleeps up to it, and one more where the loop broke off
after it. -/
theorem last (h : l.OnCourse config jitter) {s' : σ} {report : Report ε α}
    (last : attempt config shouldRetry jitter operation l = .error (s', report)) :
    report.sleeps = sleepsAfter config jitter report.sleeps.length ∧
      (config.multiplier.IsNonneg → report.sleeps.length + 1 = report.attempts) := by
  unfold attempt at last
  dsimp only at last
  split at last
  · cases last
    refine ⟨?_, fun _ => by simp⟩
    rw [List.length_reverse]
    exact h.sleeps_eq
  · split at last
    · next noNext =>
      cases last
      refine ⟨?_, fun nonneg => ?_⟩
      · rw [List.length_reverse, List.length_cons]
        exact h.reverse_cons
      · rw [h.delay_eq, nextDelay_delayAt nonneg] at noNext
        cases noNext
    · cases last

end Loop.OnCourse

/-- Every loop that a run reaches is on course. -/
theorem Reached.onCourse (reached : Reached config shouldRetry jitter operation s l) :
    l.OnCourse config jitter := by
  induction reached with
  | first => exact .start
  | next _ step ih => exact (ih.next step).1

/-- **Some number of tries** from a loop that is reached leads to a loop that has slept so often
more, or the run ends on the way. -/
theorem Reached.attempts_cases (reached : Reached config shouldRetry jitter operation s l)
    (fuel : Nat) :
    (∃ l', Reached config shouldRetry jitter operation s l' ∧
      l'.sleeps.length = l.sleeps.length + fuel ∧
      attempts config shouldRetry jitter operation fuel l = (l'.state, none)) ∨
    ∃ l' s' report, Reached config shouldRetry jitter operation s l' ∧
      attempt config shouldRetry jitter operation l' = .error (s', report) ∧
      attempts config shouldRetry jitter operation fuel l = (s', some report) := by
  induction fuel generalizing l with
  | zero => exact .inl ⟨l, reached, rfl, rfl⟩
  | succ fuel ih =>
    rw [attempts]
    match step : attempt config shouldRetry jitter operation l with
    | .error (s', report) => exact .inr ⟨l, s', report, reached, step, rfl⟩
    | .ok l' =>
      have one := (reached.onCourse.next step).2
      rcases ih (reached.next step) with ⟨far, there, slept, same⟩ | ended
      · refine .inl ⟨far, there, ?_, same⟩
        rw [slept, one, Nat.add_right_comm, Nat.add_assoc]
      · exact .inr ended

/-- **So many tries of a run** lead to a loop that has slept so often, or the run ends on the
way. -/
theorem run_cases (config : RetryConfig) (shouldRetry : ε → Bool) (jitter : Nat → Rat)
    (operation : σ → σ × Except ε α) (s : σ) (fuel : Nat) :
    (∃ l, Reached config shouldRetry jitter operation s l ∧ l.sleeps.length = fuel ∧
      run config shouldRetry jitter operation fuel s = (l.state, none)) ∨
    ∃ l s' report, Reached config shouldRetry jitter operation s l ∧
      attempt config shouldRetry jitter operation l = .error (s', report) ∧
      run config shouldRetry jitter operation fuel s = (s', some report) := by
  have start : Reached config shouldRetry jitter operation s (.first config s) := .first
  have same : run config shouldRetry jitter operation fuel s =
      attempts config shouldRetry jitter operation fuel (.first config s) :=
    runFrom_eq_attempts config shouldRetry jitter operation fuel (.first config s)
  rw [same]
  rcases start.attempts_cases fuel with ⟨l, reached, slept, same⟩ | ended
  · exact .inl ⟨l, reached, slept.trans (Nat.zero_add fuel), same⟩
  · exact .inr ended

/-- **The sleeps of a run** are determined by their number. -/
theorem Slept.eq_sleepsAfter {sleeps : List Rat}
    (slept : Slept config shouldRetry jitter operation s sleeps) :
    sleeps = sleepsAfter config jitter sleeps.length := by
  cases slept with
  | before reached =>
    rw [List.length_reverse]
    exact reached.onCourse.sleeps_eq
  | @atEnd fuel _ _ ended =>
    rcases run_cases config shouldRetry jitter operation s fuel with
      ⟨l, -, -, goesOn⟩ | ⟨l, s', report, reached, last, ended'⟩
    · cases ended.symm.trans goesOn
    · cases ended.symm.trans ended'
      exact (reached.onCourse.last last).1

/-- The sleep of a number, counted from zero, is the delay of that number times its factor. -/
theorem Slept.getElem_eq {sleeps : List Rat}
    (slept : Slept config shouldRetry jitter operation s sleeps) {k : Nat} {x : Rat}
    (isAt : sleeps[k]? = some x) : x = delayAt config k * jitter (k + 1) := by
  rw [slept.eq_sleepsAfter, sleepsAfter, List.getElem?_map, Option.map_eq_some_iff] at isAt
  obtain ⟨i, isAt, rfl⟩ := isAt
  obtain ⟨lt, rfl⟩ := List.getElem?_eq_some_iff.1 isAt
  rw [List.getElem_range]

end Sleeps

/-! ## Delays in closed form -/

section Delays

variable {config : RetryConfig} {m : Rat}

theorem atMost_eq_min (cap x : Rat) : atMost cap x = min x cap := (min_def x cap).symm

/-- The next delay under a factor that is not negative. -/
theorem nextDelay_finite {cap delay : Rat} (nonneg : 0 ≤ m) (hcap : 0 ≤ cap) (hdelay : 0 ≤ delay) :
    nextDelay (.finite m) cap delay = some (min (delay * m) cap) := by
  have least : 0 ≤ min (delay * m) cap := le_min (mul_nonneg hdelay nonneg) hcap
  rw [nextDelay, atMost_eq_min]
  exact if_pos least

/-- No next delay is above the cap. -/
theorem nextDelay_le {factor : Multiplier} {cap delay next : Rat} (nonneg : factor.IsNonneg)
    (hcap : 0 ≤ cap) (hdelay : 0 ≤ delay) (isNext : nextDelay factor cap delay = some next) :
    next ≤ cap := by
  cases factor with
  | finite m =>
    rw [nextDelay_finite nonneg hcap hdelay] at isNext
    exact Option.some.inj isNext ▸ min_le_right _ _
  | infinite negative =>
    have rises : negative = false := nonneg
    simp only [nextDelay, rises, Bool.false_eq_true, false_and, if_false] at isNext
    exact (Option.some.inj isNext).ge
  | notANumber => exact (Option.some.inj isNext).ge

/-- **No delay but the first** is above the cap. -/
theorem delayAt_succ_le (nonneg : config.multiplier.IsNonneg) (n : Nat) :
    delayAt config (n + 1) ≤ config.maxDelay.toRat :=
  nextDelay_le nonneg config.maxDelay.toRat_nonneg (delayAt_nonneg nonneg n)
    (nextDelay_delayAt nonneg n)

variable (finite : config.multiplier = .finite m) (nonneg : 0 ≤ m)

include finite nonneg

/-- One more delay: the one before, multiplied and cut off. -/
theorem delayAt_succ (n : Nat) :
    delayAt config (n + 1) = min (delayAt config n * m) config.maxDelay.toRat := by
  have isNonneg : config.multiplier.IsNonneg := finite ▸ nonneg
  rw [delayAt, finite, nextDelay_finite nonneg config.maxDelay.toRat_nonneg
    (delayAt_nonneg isNonneg n), Option.getD_some]

/-- **Delays in closed form.**  Cutting off at every step comes to the same as cutting off once. -/
theorem delayAt_eq_min (below : config.initialDelay.toRat ≤ config.maxDelay.toRat) (n : Nat) :
    delayAt config n = min (config.initialDelay.toRat * m ^ n) config.maxDelay.toRat := by
  have hfirst := config.initialDelay.toRat_nonneg
  have hcap := config.maxDelay.toRat_nonneg
  induction n with
  | zero => rw [pow_zero, mul_one, min_eq_left below, delayAt]
  | succ n ih =>
    rw [delayAt_succ finite nonneg, ih, pow_succ, ← mul_assoc]
    generalize hx : config.initialDelay.toRat * m ^ n = x
    rcases le_or_gt x config.maxDelay.toRat with under | above
    · rw [min_eq_left under]
    · -- The product has come above the cap, so the factor is at least one and keeps it there.
      have one : 1 ≤ m := by
        by_contra lt
        have shrinks : config.initialDelay.toRat * m ^ n ≤ config.initialDelay.toRat :=
          mul_le_of_le_one_right hfirst (pow_le_one₀ nonneg (le_of_lt (not_le.1 lt)))
        exact absurd (shrinks.trans below) (not_le.2 (hx ▸ above))
      have stays : config.maxDelay.toRat ≤ config.maxDelay.toRat * m :=
        le_mul_of_one_le_right hcap one
      have rises : config.maxDelay.toRat * m ≤ x * m :=
        mul_le_mul_of_nonneg_right above.le nonneg
      rw [min_eq_right above.le, min_eq_right stays, min_eq_right (stays.trans rises)]

/-- Delays do not fall where the factor is at least one. -/
theorem delayAt_monotone (below : config.initialDelay.toRat ≤ config.maxDelay.toRat)
    (one : 1 ≤ m) : Monotone (delayAt config) := by
  intro i j le
  rw [delayAt_eq_min finite nonneg below, delayAt_eq_min finite nonneg below]
  apply min_le_min_right
  apply mul_le_mul_of_nonneg_left _ config.initialDelay.toRat_nonneg
  exact pow_le_pow_right₀ one le

end Delays

/-! ## How long a run sleeps -/

section Run

variable {config : RetryConfig} {jitter : Nat → Rat}

/-- A sleep whose delay is not above the cap is at most half as long again as the cap. -/
theorem sleep_le {delay cap factor : Rat} (hdelay : 0 ≤ delay) (under : delay ≤ cap)
    (around : factor < 3 / 2) : delay * factor ≤ 3 / 2 * cap :=
  calc delay * factor ≤ delay * (3 / 2) := mul_le_mul_of_nonneg_left around.le hdelay
    _ ≤ cap * (3 / 2) := mul_le_mul_of_nonneg_right under (by norm_num)
    _ = 3 / 2 * cap := mul_comm _ _

/-- **How long a run sleeps.**  If the first delay is not above the cap, each sleep is the first
delay, multiplied as often as there were sleeps before and cut off at the cap, times its factor
around one; so no sleep is longer than one and a half times the cap, and apart from their factors
the sleeps do not get shorter where the multiplier is at least one.  If the first delay is above the
cap, it is the first sleep times its factor, and every later sleep is bounded as before.

This is said of every point of every run, one that never ends included: however many tries are
looked at, the run has slept once after each of them, or it has ended, and slept once less. -/
theorem run_backoff {m : Rat} (finite : config.multiplier = .finite m) (nonneg : 0 ≤ m)
    (around : ∀ k, 1 ≤ k → 1 / 2 ≤ jitter k ∧ jitter k < 3 / 2) (shouldRetry : ε → Bool)
    (operation : σ → σ × Except ε α) (s : σ) :
    (config.initialDelay.toRat ≤ config.maxDelay.toRat →
      (∀ sleeps, Slept config shouldRetry jitter operation s sleeps →
        ∀ k x, sleeps[k]? = some x →
          x = jitter (k + 1) *
            min (config.initialDelay.toRat * m ^ k) config.maxDelay.toRat ∧
          x ≤ 3 / 2 * config.maxDelay.toRat) ∧
      (1 ≤ m → ∀ l l', Reached config shouldRetry jitter operation s l →
        Reached config shouldRetry jitter operation s l' →
        l.sleeps.length ≤ l'.sleeps.length → l.delay ≤ l'.delay)) ∧
    (config.maxDelay.toRat < config.initialDelay.toRat →
      ∀ sleeps, Slept config shouldRetry jitter operation s sleeps →
        ∀ k x, sleeps[k]? = some x →
          (k = 0 → x = jitter 1 * config.initialDelay.toRat) ∧
          (0 < k → x ≤ 3 / 2 * config.maxDelay.toRat)) ∧
    ∀ n, (∃ l, Reached config shouldRetry jitter operation s l ∧ l.sleeps.length = n) ∨
      ∃ s' report, run config shouldRetry jitter operation n s = (s', some report) ∧
        report.sleeps.length + 1 = report.attempts := by
  have isNonneg : config.multiplier.IsNonneg := finite ▸ nonneg
  have bounded (k : Nat) (under : delayAt config k ≤ config.maxDelay.toRat) :
      delayAt config k * jitter (k + 1) ≤ 3 / 2 * config.maxDelay.toRat :=
    sleep_le (delayAt_nonneg isNonneg k) under (around (k + 1) (Nat.succ_pos k)).2
  refine ⟨fun below => ⟨?_, ?_⟩, ?_, fun n => ?_⟩
  · intro sleeps slept k x isAt
    have closed := delayAt_eq_min finite nonneg below k
    rw [slept.getElem_eq isAt]
    refine ⟨?_, bounded k (closed ▸ min_le_right _ _)⟩
    rw [closed, mul_comm]
  · intro one l l' reached reached' le
    rw [reached.onCourse.delay_eq, reached'.onCourse.delay_eq]
    exact delayAt_monotone finite nonneg below one le
  · intro _ sleeps slept k x isAt
    rw [slept.getElem_eq isAt]
    refine ⟨?_, fun later => ?_⟩
    · rintro rfl
      exact mul_comm _ _
    · obtain ⟨j, rfl⟩ := Nat.exists_eq_succ_of_ne_zero later.ne'
      exact bounded (j + 1) (delayAt_succ_le isNonneg j)
  · rcases run_cases config shouldRetry jitter operation s n with
      ⟨l, reached, slept, -⟩ | ⟨l, s', report, reached, last, ended⟩
    · exact .inl ⟨l, reached, slept⟩
    · exact .inr ⟨s', report, ended, (reached.onCourse.last last).2 isNonneg⟩

/-- Three tries that fail: the sleeps are the first delay of a tenth of a second and twice that,
each a quarter longer. -/
theorem run_backoff_two_sleeps :
    let config : RetryConfig := { maxAttempts := 3 }
    let jitter : Nat → Rat := fun _ => 5 / 4
    let operation := tape fun i => (.error i : Except Nat Unit)
    config.multiplier = .finite 2 ∧ (0 : Rat) ≤ 2 ∧
    (∀ k, 1 ≤ k → 1 / 2 ≤ jitter k ∧ jitter k < 3 / 2) ∧
    config.initialDelay.toRat ≤ config.maxDelay.toRat ∧
    Slept config (fun _ => true) jitter operation 0 [1 / 8, 1 / 4] ∧
    1 / 4 = jitter 2 * min (config.initialDelay.toRat * 2 ^ 1) config.maxDelay.toRat ∧
    1 / 4 ≤ 3 / 2 * config.maxDelay.toRat := by
  intro config jitter operation
  have around : ∀ k, 1 ≤ k → 1 / 2 ≤ jitter k ∧ jitter k < 3 / 2 :=
    fun k _ => by norm_num [jitter]
  have below : config.initialDelay.toRat ≤ config.maxDelay.toRat := by decide +kernel
  have last : IsLast config (fun _ => true) (result operation 0) 3 :=
    isLast_tape.2 (isLast_maxAttempts (by decide) fun i _ _ => ⟨i, rfl, rfl⟩)
  have slept : Slept config (fun _ => true) jitter operation 0 [1 / 8, 1 / 4] := by
    have two : sleepsAfter config jitter 2 = [1 / 8, 1 / 4] := by decide +kernel
    rw [← two]
    exact .atEnd (run_isLast (by decide) (by decide) last (Nat.le_refl 3))
  have isDouble : config.multiplier = .finite 2 := rfl
  have backoff := run_backoff isDouble (by norm_num) around (fun _ => true) operation 0
  exact ⟨rfl, by norm_num, around, below, slept, (backoff.1 below).1 _ slept 1 _ rfl⟩

end Run

end NodeProvisioning.Retry
