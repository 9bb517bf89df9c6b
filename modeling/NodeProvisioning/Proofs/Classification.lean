import NodeProvisioning.NodeClaim.State

/-!
# What several conditions show together

The state of a claim is looked up in two passes over its conditions: the first failed launch
decides, and only where there is none does a ready node count.  Both passes come to one law.  A
list shows what its conditions show one by one, joined (`ClaimState.ofConditions_append`), and the
join is the maximum in the order pending, ready, failed, in which of two failures the first stays
(`ClaimState.join_eq_ite`).

The join is not symmetric, for two failures have two reasons.  How decisive the state is does not
feel this: the rank of a join is the greater of two ranks, so it is bounded by what bounds the rank
of every single condition (`ClaimState.rank_ofConditions_le_iff`), and there neither order nor
repetition is left.

## Main definitions

* `ClaimState.rank` — how decisive a state is

## Main statements

* `ClaimState.join_eq_ite` — the join picks the more decisive state, the first where it is a tie
* `ClaimState.ofConditions_append` — conditions that follow one another
* `ClaimState.rank_ofConditions_mono`, `ClaimState.rank_ofConditions_congr` — which conditions there
  are decides the rank
* `ClaimState.reason_ne_empty` — a failed claim has a reason
* `ClaimState.ofConditions_joins` — how conditions are classified
-/

namespace NodeProvisioning

namespace ClaimState

variable {c : Condition} {l xs ys : List Condition} {reason : String}

/-! ## The order of states -/

/-- How decisive a state is: a failure outranks readiness, which outranks what is pending. -/
def rank : ClaimState → Nat
  | .pending => 0
  | .ready => 1
  | .failed _ => 2

/-- **The join** is the state of the higher rank, and of two states of one rank the first. -/
theorem join_eq_ite (a b : ClaimState) : a.join b = if b.rank ≤ a.rank then a else b := by
  cases a <;> cases b <;> rfl

/-- The rank of a join. -/
theorem rank_join (a b : ClaimState) : (a.join b).rank = max a.rank b.rank := by
  cases a <;> cases b <;> rfl

@[simp] theorem failed_join (reason : String) (a : ClaimState) :
    (failed reason).join a = .failed reason := rfl

/-! ## One condition -/

/-- A condition is reported not to hold under its type and with the status for it. -/
theorem fails_ofText_iff (c : Condition) (type : String) :
    c.fails (.ofText type) ↔ c.type = type ∧ c.status = .false := by
  simp [Condition.fails, Condition.kind, ConditionKind.ofText_eq_iff, and_comm]

/-- A condition is reported to hold under its type and with the status for it. -/
theorem holds_ofText_iff (c : Condition) (type : String) :
    c.holds (.ofText type) ↔ c.type = type ∧ c.status = .true := by
  simp [Condition.holds, Condition.kind, ConditionKind.ofText_eq_iff, and_comm]

/-- **A failed launch** is what a condition shows that reports it, with what it says of the
cause. -/
theorem ofCondition_eq_failed_iff : ofCondition c = .failed reason ↔
    c.type = "Launched" ∧ c.status = .false ∧ reason = failureReason c := by
  have launched : c.fails .launched ↔ _ := fails_ofText_iff c "Launched"
  rw [← and_assoc, ← launched, ofCondition]
  by_cases fails : c.fails .launched = true
  · simp [fails, eq_comm]
  · rw [if_neg fails]
    split <;> simp [fails]

/-- **A ready node** is what a condition shows that reports it. -/
theorem ofCondition_eq_ready_iff : ofCondition c = .ready ↔
    c.type = "Ready" ∧ c.status = .true := by
  have ready : c.holds .ready ↔ _ := holds_ofText_iff c "Ready"
  rw [← ready, ofCondition]
  by_cases fails : c.fails .launched = true
  · -- A failed launch has another status than a ready node.
    simp_all [Condition.fails, Condition.holds]
  · simp [fails]

/-! ## Several conditions -/

/-- **Conditions that follow one another** show the join of what they show apart. -/
theorem ofConditions_append (xs ys : List Condition) :
    ofConditions (xs ++ ys) = (ofConditions xs).join (ofConditions ys) := by
  simp only [ofConditions, List.find?_append, List.any_append]
  cases xs.find? (·.fails .launched) with
  | some c => rfl
  | none =>
    cases ys.find? (·.fails .launched) with
    | some c => cases xs.any (·.holds .ready) <;> rfl
    | none => cases xs.any (·.holds .ready) <;> cases ys.any (·.holds .ready) <;> rfl

/-- A single condition shows what it shows by itself. -/
@[simp] theorem ofConditions_singleton (c : Condition) : ofConditions [c] = ofCondition c := by
  unfold ofConditions ofCondition
  cases fails : c.fails .launched <;> simp [fails]

/-- One more condition, in front. -/
theorem ofConditions_cons (c : Condition) (l : List Condition) :
    ofConditions (c :: l) = (ofCondition c).join (ofConditions l) := by
  rw [← List.singleton_append, ofConditions_append, ofConditions_singleton]

/-- **The rank that conditions show** is bounded by whatever bounds each of theirs. -/
theorem rank_ofConditions_le_iff {n : Nat} :
    (ofConditions l).rank ≤ n ↔ ∀ c ∈ l, (ofCondition c).rank ≤ n := by
  induction l with
  | nil => simp [rank]
  | cons c rest ih => rw [ofConditions_cons, rank_join, Nat.max_le, ih, List.forall_mem_cons]

/-- **More conditions** never show less. -/
theorem rank_ofConditions_mono (sub : xs ⊆ ys) :
    (ofConditions xs).rank ≤ (ofConditions ys).rank :=
  rank_ofConditions_le_iff.2 fun c mem => rank_ofConditions_le_iff.1 (Nat.le_refl _) c (sub mem)

/-- **Order and repetition** of conditions make no difference to the rank they show. -/
theorem rank_ofConditions_congr (same : ∀ c, c ∈ xs ↔ c ∈ ys) :
    (ofConditions xs).rank = (ofConditions ys).rank :=
  Nat.le_antisymm (rank_ofConditions_mono fun c => (same c).1)
    (rank_ofConditions_mono fun c => (same c).2)

/-- A failed claim has a reason. -/
theorem reason_ne_empty (h : ofConditions l = .failed reason) : reason ≠ "" := by
  unfold ofConditions at h
  split at h
  · next c _ =>
    cases h
    exact failureReason_ne_empty c
  · split at h <;> cases h

/-- **How conditions are classified.**  A list shows the join of what its parts show: the more
decisive state, where a failure is above readiness and readiness above what is pending, and of two
failures the first.  Without conditions a claim is pending, and a single one shows a failure only
as a failed launch, with its message, else its reason, else a fixed text, and readiness only as a
ready node.

So which of the three states a list shows depends on neither order nor repetition, a failure stays
the same failure whatever is reported after it, and there is always a reason for it. -/
theorem ofConditions_joins (xs ys : List Condition) (c : Condition) :
    ofConditions (xs ++ ys) = (ofConditions xs).join (ofConditions ys) ∧
    (∀ a b : ClaimState, a.join b = if b.rank ≤ a.rank then a else b) ∧
    ofConditions [] = .pending ∧
    (∀ reason, ofConditions [c] = .failed reason ↔
      c.type = "Launched" ∧ c.status = .false ∧
      reason = if c.message ≠ "" then c.message else if c.reason ≠ "" then c.reason
        else "node claim launch failed") ∧
    (ofConditions [c] = .ready ↔ c.type = "Ready" ∧ c.status = .true) ∧
    ((∀ c, c ∈ xs ↔ c ∈ ys) → (ofConditions xs).rank = (ofConditions ys).rank) ∧
    ∀ reason, ofConditions xs = .failed reason →
      ofConditions (xs ++ ys) = .failed reason ∧ reason ≠ "" := by
  refine ⟨ofConditions_append xs ys, join_eq_ite, rfl, fun reason => ?_, ?_,
    rank_ofConditions_congr, fun reason failed => ⟨?_, reason_ne_empty failed⟩⟩
  · rw [ofConditions_singleton]
    exact ofCondition_eq_failed_iff
  · rw [ofConditions_singleton]
    exact ofCondition_eq_ready_iff
  · rw [ofConditions_append, failed, failed_join]

end ClaimState

end NodeProvisioning
