import Mathlib.Algebra.Order.Field.Rat
import Mathlib.Data.Nat.Find
import NodeProvisioning.Retry

/-!
# Where retrying stops

A retried operation goes on until a result is final: a success, an error that is not to be retried,
or whatever the last permitted try has brought.  What the loop has in hand after some tries, none of
them final, is determined by their number alone: the count, the delay, the sleeps, and the state
that the operation has left behind (`Retry.run_goesOn`).  Everything else is read off there, with no
further induction: the first final result ends the run, and without one there is always one more
try.

The count is a word, and the loop compares it with the permitted number of tries only where there is
one.  Under such a limit the count is the number of tries, which never passes the limit; without a
limit it may start again from zero, and nothing looks at it.

## Main definitions

* `Retry.Final`, `Retry.GoesOn`, `Retry.IsLast` — which tries are the last
* `Retry.after`, `Retry.result` — what a number of tries leaves behind, and what the last one brings
* `Retry.tape` — the operation whose results are given in advance
* `Retry.delayAt`, `Retry.sleepsAfter` — the delays and sleeps of a run

## Main statements

* `Retry.lt_maxAttempts` — tries that are not final stay below the limit
* `Retry.runFrom_goesOn`, `Retry.run_goesOn` — one try that is not final, and any number of them
* `Retry.run_isLast` — the try that ends a run
* `Retry.runFrom_counter` — without a limit the count makes no difference
-/

namespace NodeProvisioning

/-- A factor that makes no delay negative. -/
def Multiplier.IsNonneg : Multiplier → Prop
  | .finite factor => 0 ≤ factor
  | .infinite negative => negative = false
  | .notANumber => True

instance : DecidablePred Multiplier.IsNonneg
  | .finite factor => inferInstanceAs (Decidable (0 ≤ factor))
  | .infinite negative => inferInstanceAs (Decidable (negative = false))
  | .notANumber => .isTrue trivial

/-- No duration is negative. -/
theorem Duration.toRat_nonneg (d : Duration) : 0 ≤ d.toRat :=
  div_nonneg Rat.natCast_nonneg Rat.natCast_nonneg

namespace Retry

variable {σ ε α : Type} {config : RetryConfig} {shouldRetry : ε → Bool} {jitter : Nat → Rat}

/-! ## The last try -/

/-- **A final result** of the try of that number. -/
def Final (config : RetryConfig) (shouldRetry : ε → Bool) (i : Nat) (r : Except ε α) : Prop :=
  (∃ a, r = .ok a) ∨ (∃ e, r = .error e ∧ shouldRetry e = false) ∨
    (0 < config.maxAttempts ∧ i = config.maxAttempts)

/-- **A run goes on** after so many tries, which are counted from one: none was final. -/
def GoesOn (config : RetryConfig) (shouldRetry : ε → Bool) (r : Nat → Except ε α) (n : Nat) :
    Prop :=
  ∀ i, 1 ≤ i → i ≤ n → ¬ Final config shouldRetry i (r i)

/-- **The last try** is the first whose result is final. -/
def IsLast (config : RetryConfig) (shouldRetry : ε → Bool) (r : Nat → Except ε α) (k : Nat) :
    Prop :=
  1 ≤ k ∧ Final config shouldRetry k (r k) ∧
    ∀ i, 1 ≤ i → i < k → ¬ Final config shouldRetry i (r i)

section Last

variable {r : Nat → Except ε α} {n k : Nat}

theorem GoesOn.mono {m : Nat} (goesOn : GoesOn config shouldRetry r n) (le : m ≤ n) :
    GoesOn config shouldRetry r m :=
  fun i one bound => goesOn i one (Nat.le_trans bound le)

/-- Before the last try a run goes on. -/
theorem IsLast.goesOn (last : IsLast config shouldRetry r k) (lt : n < k) :
    GoesOn config shouldRetry r n :=
  fun i one bound => last.2.2 i one (Nat.lt_of_le_of_lt bound lt)

/-- A result that is not final is an error that is retried. -/
theorem retried_of_not_final {i : Nat} (not : ¬ Final config shouldRetry i (r i)) :
    ∃ e, r i = .error e ∧ shouldRetry e = true := by
  cases brought : r i with
  | ok a => exact absurd (.inl ⟨a, brought⟩) not
  | error e =>
    cases again : shouldRetry e with
    | true => exact ⟨e, rfl, again⟩
    | false => exact absurd (.inr (.inl ⟨e, brought, again⟩)) not

/-- **Under a limit** fewer tries than it permits go on. -/
theorem lt_maxAttempts (goesOn : GoesOn config shouldRetry r n) (limited : 0 < config.maxAttempts) :
    n < config.maxAttempts := by
  by_contra reached
  exact goesOn config.maxAttempts limited (Nat.le_of_not_lt reached) (.inr (.inr ⟨limited, rfl⟩))

/-- Where every try before the limit meets an error that is retried, the limit is the last. -/
theorem isLast_maxAttempts (limited : 0 < config.maxAttempts)
    (retried : ∀ i, 1 ≤ i → i < config.maxAttempts → ∃ e, r i = .error e ∧ shouldRetry e = true) :
    IsLast config shouldRetry r config.maxAttempts := by
  refine ⟨limited, .inr (.inr ⟨limited, rfl⟩), fun i one lt final => ?_⟩
  obtain ⟨e, met, again⟩ := retried i one lt
  rcases final with ⟨a, brought⟩ | ⟨e', brought, rejected⟩ | ⟨-, same⟩
  · cases met.symm.trans brought
  · cases met.symm.trans brought
    cases again.symm.trans rejected
  · exact absurd same (Nat.ne_of_lt lt)

/-- There is no more than one last try. -/
theorem IsLast.unique {l : Nat} (last : IsLast config shouldRetry r k)
    (other : IsLast config shouldRetry r l) : k = l :=
  Nat.le_antisymm (Nat.le_of_not_lt fun lt => last.2.2 l other.1 lt other.2.1)
    (Nat.le_of_not_lt fun lt => other.2.2 k last.1 lt last.2.1)

/-- Where a result is final there is a last try, no later. -/
theorem exists_isLast (one : 1 ≤ n) (final : Final config shouldRetry n (r n)) :
    ∃ k, k ≤ n ∧ IsLast config shouldRetry r k := by
  classical
  have some : ∃ i, 1 ≤ i ∧ Final config shouldRetry i (r i) := ⟨n, one, final⟩
  refine ⟨Nat.find some, Nat.find_min' some ⟨one, final⟩, (Nat.find_spec some).1,
    (Nat.find_spec some).2, fun i one earlier final => Nat.find_min some earlier ⟨one, final⟩⟩

end Last

/-- The loop stops where the result is final, provided that its count is right where it counts. -/
theorem stops_eq_true_iff {i attempt : Nat} {r : Except ε α}
    (counted : 0 < config.maxAttempts → attempt = i ∧ i ≤ config.maxAttempts) :
    stops config.maxAttempts shouldRetry attempt r = true ↔ Final config shouldRetry i r := by
  cases r with
  | ok a => simp [stops, Final]
  | error e =>
    cases retried : shouldRetry e with
    | false => simp [stops, Final, retried]
    | true =>
      have limit : (config.maxAttempts ≠ 0 ∧ config.maxAttempts ≤ attempt) ↔
          (0 < config.maxAttempts ∧ i = config.maxAttempts) := by
        constructor
        · rintro ⟨limited, reached⟩
          have := counted (Nat.pos_of_ne_zero limited)
          omega
        · rintro ⟨limited, rfl⟩
          have := counted limited
          omega
      simpa [stops, Final, retried] using limit

/-! ## What tries leave behind -/

/-- The state that so many tries leave behind. -/
def after (operation : σ → σ × Except ε α) (s : σ) : Nat → σ
  | 0 => s
  | n + 1 => (operation (after operation s n)).1

/-- The result of the try of that number, counted from one. -/
def result (operation : σ → σ × Except ε α) (s : σ) (i : Nat) : Except ε α :=
  (operation (after operation s (i - 1))).2

/-- One more try, by state and result. -/
theorem operation_after (operation : σ → σ × Except ε α) (s : σ) (n : Nat) :
    operation (after operation s n) =
      (after operation s (n + 1), result operation s (n + 1)) := rfl

/-- The operation whose results are given in advance; its state is how often it was tried. -/
def tape (r : Nat → Except ε α) (tried : Nat) : Nat × Except ε α := (tried + 1, r (tried + 1))

@[simp] theorem after_tape (r : Nat → Except ε α) (n : Nat) : after (tape r) 0 n = n := by
  induction n with
  | zero => rfl
  | succ n ih => rw [after, ih, tape]

/-- The tries bring what is on the tape. -/
theorem result_tape (r : Nat → Except ε α) {i : Nat} (one : 1 ≤ i) : result (tape r) 0 i = r i := by
  rw [result, after_tape, tape, Nat.sub_add_cancel one]

theorem goesOn_tape {r : Nat → Except ε α} {n : Nat} :
    GoesOn config shouldRetry (result (tape r) 0) n ↔ GoesOn config shouldRetry r n := by
  simp +contextual [GoesOn, result_tape]

theorem isLast_tape {r : Nat → Except ε α} {k : Nat} :
    IsLast config shouldRetry (result (tape r) 0) k ↔ IsLast config shouldRetry r k := by
  simp +contextual [IsLast, result_tape]

/-! ## Delays and sleeps -/

/-- The delay that is reached after so many tries. -/
def delayAt (config : RetryConfig) : Nat → Rat
  | 0 => config.initialDelay.toRat
  | n + 1 => (nextDelay config.multiplier config.maxDelay.toRat (delayAt config n)).getD 0

/-- The sleeps after so many tries, first to last. -/
def sleepsAfter (config : RetryConfig) (jitter : Nat → Rat) (n : Nat) : List Rat :=
  (List.range n).map fun i => delayAt config i * jitter (i + 1)

@[simp] theorem length_sleepsAfter (config : RetryConfig) (jitter : Nat → Rat) (n : Nat) :
    (sleepsAfter config jitter n).length = n := by
  simp [sleepsAfter]

/-- One more sleep. -/
theorem sleepsAfter_succ (config : RetryConfig) (jitter : Nat → Rat) (n : Nat) :
    sleepsAfter config jitter (n + 1) =
      sleepsAfter config jitter n ++ [delayAt config n * jitter (n + 1)] := by
  simp [sleepsAfter, List.range_succ]

/-- A factor that makes no delay negative gives a next delay, which is not negative either. -/
theorem exists_nextDelay {m : Multiplier} {cap delay : Rat} (nonneg : m.IsNonneg) (hcap : 0 ≤ cap)
    (hdelay : 0 ≤ delay) : ∃ next, 0 ≤ next ∧ nextDelay m cap delay = some next := by
  cases m with
  | finite factor =>
    have least : 0 ≤ atMost cap (delay * factor) := by
      unfold atMost
      split
      · exact Rat.mul_nonneg hdelay nonneg
      · exact hcap
    exact ⟨_, least, by simp [nextDelay, least]⟩
  | infinite negative => exact ⟨cap, hcap, by simp [nextDelay, show negative = false from nonneg]⟩
  | notANumber => exact ⟨cap, hcap, rfl⟩

section Delays

variable (nonneg : config.multiplier.IsNonneg)

include nonneg

theorem delayAt_nonneg (n : Nat) : 0 ≤ delayAt config n := by
  induction n with
  | zero => exact config.initialDelay.toRat_nonneg
  | succ n ih =>
    obtain ⟨next, least, eq⟩ := exists_nextDelay nonneg config.maxDelay.toRat_nonneg ih
    rwa [delayAt, eq]

/-- Every delay is followed by a next one. -/
theorem nextDelay_delayAt (n : Nat) :
    nextDelay config.multiplier config.maxDelay.toRat (delayAt config n) =
      some (delayAt config (n + 1)) := by
  obtain ⟨next, -, eq⟩ :=
    exists_nextDelay nonneg config.maxDelay.toRat_nonneg (delayAt_nonneg nonneg n)
  rw [delayAt, eq, Option.getD_some]

end Delays

/-! ## The loop -/

section Loop

variable {operation : σ → σ × Except ε α} {s : σ} {n : Nat}
  (bounded : config.maxAttempts < 2 ^ 32) (nonneg : config.multiplier.IsNonneg)

/-- A count up to the limit is a number of the word. -/
theorem toNat_count (bounded : config.maxAttempts < 2 ^ 32) (le : n ≤ config.maxAttempts) :
    (UInt32.ofNat n).toNat = n :=
  UInt32.toNat_ofNat_of_lt' (Nat.lt_of_le_of_lt le bounded)

/-- Below the limit one more try does not overflow the word. -/
theorem toNat_count_succ (bounded : config.maxAttempts < 2 ^ 32) (below : n < config.maxAttempts) :
    (UInt32.ofNat n + 1).toNat = n + 1 := by
  rw [← UInt32.ofNat_one, ← UInt32.ofNat_add, toNat_count bounded below]

include bounded

/-- After tries that go on, one more is the last if its result is final. -/
theorem stops_iff_final (goesOn : GoesOn config shouldRetry (result operation s) n) :
    stops config.maxAttempts shouldRetry (UInt32.ofNat n + 1).toNat
        (result operation s (n + 1)) = true ↔
      Final config shouldRetry (n + 1) (result operation s (n + 1)) := by
  refine stops_eq_true_iff fun limited => ?_
  have below := lt_maxAttempts goesOn limited
  exact ⟨toNat_count_succ bounded below, below⟩

include nonneg

/-- **One try that is not final**: the loop goes on with the next count and delay, after one more
sleep. -/
theorem runFrom_goesOn (goesOn : GoesOn config shouldRetry (result operation s) (n + 1))
    (fuel : Nat) :
    runFrom config shouldRetry jitter operation (fuel + 1) (.ofNat n) (delayAt config n)
        (sleepsAfter config jitter n).reverse (after operation s n) =
      runFrom config shouldRetry jitter operation fuel (.ofNat (n + 1)) (delayAt config (n + 1))
        (sleepsAfter config jitter (n + 1)).reverse (after operation s (n + 1)) := by
  -- The count is right because the tries before this one went on.
  have stays := (stops_iff_final bounded (goesOn.mono (Nat.le_succ n))).not.2
    (goesOn (n + 1) (Nat.succ_pos n) (Nat.le_refl _))
  rw [runFrom, operation_after operation s n]
  simp only [stays, nextDelay_delayAt nonneg, List.length_reverse, length_sleepsAfter,
    sleepsAfter_succ, List.reverse_append, List.reverse_singleton, List.singleton_append,
    UInt32.ofNat_add, UInt32.ofNat_one]
  rfl

/-- **Any number of tries that are not final** leave the loop with their number as the count, the
delay and the sleeps that belong to it, and the state that they have left behind. -/
theorem run_goesOn (goesOn : GoesOn config shouldRetry (result operation s) n) (fuel : Nat) :
    run config shouldRetry jitter operation (n + fuel) s =
      runFrom config shouldRetry jitter operation fuel (.ofNat n) (delayAt config n)
        (sleepsAfter config jitter n).reverse (after operation s n) := by
  induction n generalizing fuel with
  | zero =>
    rw [Nat.zero_add]
    rfl
  | succ n ih =>
    -- The last of the tries is the first that the rest of the fuel is spent on.
    rw [Nat.succ_add_eq_add_succ, ih (goesOn.mono (Nat.le_succ n)),
      runFrom_goesOn bounded nonneg goesOn]

/-- While a run goes on there is no end to see. -/
theorem run_short (goesOn : GoesOn config shouldRetry (result operation s) n) :
    run config shouldRetry jitter operation n s = (after operation s n, none) :=
  run_goesOn bounded nonneg goesOn 0

/-- **The last try** ends a run, with its own result. -/
theorem run_isLast {k : Nat} (last : IsLast config shouldRetry (result operation s) k)
    {fuel : Nat} (enough : k ≤ fuel) :
    run config shouldRetry jitter operation fuel s = (after operation s k,
      some ⟨.returned (result operation s k), k, sleepsAfter config jitter (k - 1)⟩) := by
  obtain ⟨n, rfl⟩ : ∃ n, k = n + 1 := ⟨k - 1, (Nat.sub_add_cancel last.1).symm⟩
  obtain ⟨more, rfl⟩ := Nat.exists_eq_add_of_le enough
  have goesOn := last.goesOn n.lt_succ_self
  have stops := (stops_iff_final bounded goesOn).2 last.2.1
  rw [show n + 1 + more = n + (more + 1) by omega, run_goesOn bounded nonneg goesOn, runFrom,
    operation_after operation s n]
  simp only [stops, List.length_reverse, length_sleepsAfter, List.reverse_reverse]
  rfl

end Loop

/-- **Without a limit** nothing depends on the count. -/
theorem runFrom_counter (unlimited : config.maxAttempts = 0) (operation : σ → σ × Except ε α)
    (fuel : Nat) (a b : UInt32) (delay : Rat) (sleeps : List Rat) (s : σ) :
    runFrom config shouldRetry jitter operation fuel a delay sleeps s =
      runFrom config shouldRetry jitter operation fuel b delay sleeps s := by
  induction fuel generalizing a b delay sleeps s with
  | zero => rfl
  | succ fuel ih =>
    have same (r : Except ε α) : stops config.maxAttempts shouldRetry (a + 1).toNat r =
        stops config.maxAttempts shouldRetry (b + 1).toNat r := by
      cases r <;> simp [stops, unlimited]
    simp only [runFrom, same]
    split
    · rfl
    · split
      · rfl
      · exact ih _ _ _ _ _

end Retry

end NodeProvisioning
