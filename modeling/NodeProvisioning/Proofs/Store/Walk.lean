import NodeProvisioning.Proofs.Fleet.Basic
import NodeProvisioning.Proofs.Store.Script

/-!
# Each script is walked on its own

Whatever is done to a store, and to whichever claims, a look at a claim shows the entry of that
claim's script whose turn it is.  Only two things would interfere: another script for the claim, and
looks at it being left unanswered.  An operation that does neither walks the script on if it is a
look at the claim, and leaves it as it is if not; the rest is counting looks.

The claim need not be there.  A refusal is shown without it, and a look that finds no claim has used
up its entry all the same.

## Main definitions

* `Store.Operation`, `Store.applyAll` — what can be done to a store, once and several times
* `Store.Operation.Spares` — what does not interfere with the looks at a claim
* `Store.lookCount` — how many operations are looks at a claim

## Main statements

* `Store.Walked.apply`, `Store.Walked.applyAll` — one operation, and any number
* `Store.looksAt_applyAll` — every look is counted
* `Store.Operation.entry_apply` — what was submitted stays as it is
* `Store.walks_scripts` — each script is walked on its own
-/

namespace NodeProvisioning.Store

variable {s : Store} {key k : ClaimKey}

/-! ## What calls leave alone -/

/-- A creation changes no script, leaves no look unanswered and counts none. -/
theorem create_leaves (s : Store) (claim : NodeClaim) :
    (s.create claim).1.scripts = s.scripts ∧ (s.create claim).1.hanging = s.hanging ∧
      (s.create claim).1.looks = s.looks := by
  unfold create
  split
  · exact ⟨rfl, rfl, rfl⟩
  · split <;> exact ⟨rfl, rfl, rfl⟩

/-- Nor does a report. -/
theorem report_leaves (s : Store) (key : ClaimKey) (l : List Condition) :
    (s.report key l).scripts = s.scripts ∧ (s.report key l).hanging = s.hanging ∧
      (s.report key l).looks = s.looks := by
  unfold report
  split <;> exact ⟨rfl, rfl, rfl⟩

/-- A report leaves what was submitted alone. -/
theorem report_agrees (s : Store) (key : ClaimKey) (l : List Condition) :
    (s.report key l).Agrees s := by
  unfold report
  split
  · next claim found =>
    refine ⟨fun k => ?_, rfl, rfl⟩
    by_cases same : key = k
    · subst same
      simp [entry, SortedMap.find?_insert, found]
    · simp [entry, SortedMap.find?_insert, same]
  · exact .refl s

/-! ## Operations -/

/-- What can be done to a store. -/
inductive Operation where
  /-- A call. -/
  | call (call : Call)
  /-- Conditions are reported on a claim. -/
  | report (key : ClaimKey) (l : List Condition)
  /-- A claim is stored as if it had been there before. -/
  | put (claim : NodeClaim)
  /-- A claim is given a script. -/
  | script (key : ClaimKey) (l : List Snapshot)
  /-- Looks at a claim are left unanswered from now on. -/
  | hang (key : ClaimKey)
  /-- Creations are refused from now on. -/
  | refuseCreations (code : Nat) (message : String)
  /-- Listings are refused from now on. -/
  | refuseListings (code : Nat) (message : String)

namespace Operation

/-- What an operation makes of a store. -/
def apply : Operation → Store → Store
  | .call c, s => (s.serve c).1
  | .report key l, s => s.report key l
  | .put claim, s => s.put claim
  | .script key l, s => s.script key l
  | .hang key, s => s.hang key
  | .refuseCreations code message, s => { s with createFailure := some (code, message) }
  | .refuseListings code message, s => { s with listFailure := some (code, message) }

/-- Whether an operation is a look at a claim. -/
def isLookAt (key : ClaimKey) : Operation → Bool
  | .call (.get k) => k = key
  | _ => false

/-- An operation **spares a claim** if it neither gives it another script nor leaves looks at it
unanswered. -/
def Spares (key : ClaimKey) : Operation → Prop
  | .script k _ => k ≠ key
  | .hang k => k ≠ key
  | _ => True

/-- A look, a listing and a report **submit nothing**. -/
def SubmitsNothing : Operation → Prop
  | .call (.get _) => True
  | .call (.list _ _) => True
  | .report _ _ => True
  | _ => False

variable {op : Operation}

/-- **An operation that spares a claim** and does not look at it leaves its script alone, and does
not leave looks at it unanswered. -/
theorem apply_elsewhere (spares : op.Spares key) (elsewhere : op.isLookAt key = false) :
    (op.apply s).scripts.find? key = s.scripts.find? key ∧
      (key ∉ s.hanging → key ∉ (op.apply s).hanging) := by
  cases op with
  | call c =>
    cases c with
    | create claim =>
      obtain ⟨scripts, hanging, -⟩ := create_leaves s claim
      rw [apply, serve, scripts, hanging]
      exact ⟨rfl, id⟩
    | get k =>
      rw [apply, serve, hanging_get]
      exact ⟨scripts_get_of_ne (of_decide_eq_false elsewhere), id⟩
    | list ns selector => exact ⟨rfl, id⟩
  | report k l =>
    obtain ⟨scripts, hanging, -⟩ := report_leaves s k l
    rw [apply, scripts, hanging]
    exact ⟨rfl, id⟩
  | script k l =>
    refine ⟨?_, id⟩
    show (s.scripts.insert k l).find? key = s.scripts.find? key
    rw [SortedMap.find?_insert, if_neg spares]
  | hang k =>
    rw [apply, Store.hang]
    split
    · exact ⟨rfl, id⟩
    · refine ⟨rfl, fun awake mem => ?_⟩
      rcases List.mem_cons.1 mem with same | before
      · exact spares same.symm
      · exact awake before
  | _ => exact ⟨rfl, id⟩

/-- **An operation is counted** if it is a look at the claim, answered or not, and no other is. -/
theorem looksAt_apply (op : Operation) (s : Store) (key : ClaimKey) :
    (op.apply s).looksAt key = s.looksAt key + if op.isLookAt key then 1 else 0 := by
  cases op with
  | call c =>
    cases c with
    | create claim => simp [apply, serve, looksAt, isLookAt, (create_leaves s claim).2.2]
    | get k =>
      by_cases own : k = key
      · subst own
        simp [apply, serve, looksAt, isLookAt, SortedMap.find?_insert]
      · simp [apply, serve, looksAt, isLookAt, SortedMap.find?_insert, own]
    | list ns selector => rfl
  | report k l => simp [apply, looksAt, isLookAt, (report_leaves s k l).2.2]
  | hang k =>
    rw [apply, Store.hang]
    split <;> rfl
  | _ => rfl

/-- **What is submitted stays as it is** under looks, listings and reports. -/
theorem entry_apply (nothing : op.SubmitsNothing) (s : Store) (key : ClaimKey) :
    (op.apply s).entry key = s.entry key := by
  cases op with
  | call c =>
    cases c with
    | get k => exact (get_agrees s k).entry_eq key
    | list ns selector => rfl
    | create claim => exact nothing.elim
  | report k l => exact (report_agrees s k l).entry_eq key
  | _ => exact nothing.elim

end Operation

/-- What several operations make of a store, one after the other. -/
def applyAll (s : Store) (ops : List Operation) : Store :=
  ops.foldl (fun s op => op.apply s) s

/-- How many of several operations are looks at a claim. -/
def lookCount (key : ClaimKey) (ops : List Operation) : Nat :=
  ops.countP (·.isLookAt key)

theorem applyAll_cons (s : Store) (op : Operation) (ops : List Operation) :
    s.applyAll (op :: ops) = (op.apply s).applyAll ops := rfl

theorem lookCount_cons (key : ClaimKey) (op : Operation) (ops : List Operation) :
    lookCount key (op :: ops) = (if op.isLookAt key then 1 else 0) + lookCount key ops := by
  rw [lookCount, List.countP_cons, Nat.add_comm]
  rfl

/-- **Every look is counted.** -/
theorem looksAt_applyAll (s : Store) (ops : List Operation) (key : ClaimKey) :
    (s.applyAll ops).looksAt key = s.looksAt key + lookCount key ops := by
  induction ops generalizing s with
  | nil => rfl
  | cons op ops ih =>
    rw [applyAll_cons, ih, Operation.looksAt_apply, lookCount_cons, Nat.add_assoc]

/-! ## Walking a script -/

namespace Walked

variable {script : List Snapshot} {n : Nat} {op : Operation} {ops : List Operation}

/-- **Any operation that spares the claim** walks its script on if it is a look at it, and leaves it
as it is if not. -/
theorem apply (h : Walked script n s key) (spares : op.Spares key) :
    Walked script (n + if op.isLookAt key then 1 else 0) (op.apply s) key := by
  cases own : op.isLookAt key with
  | true =>
    have same : op = .call (.get key) := by
      unfold Operation.isLookAt at own
      split at own
      · rw [of_decide_eq_true own]
      · cases own
    subst same
    exact h.look
  | false =>
    obtain ⟨left, found, rest⟩ := h.left
    obtain ⟨scripts, hanging⟩ := Operation.apply_elsewhere spares own
    exact ⟨hanging h.awake, left, scripts.trans found, rest⟩

/-- **Any number of operations** walk a script by as many looks as there are among them. -/
theorem applyAll (h : Walked script n s key) (spares : ∀ op ∈ ops, op.Spares key) :
    Walked script (n + lookCount key ops) (s.applyAll ops) key := by
  induction ops generalizing s n with
  | nil => exact h
  | cons op ops ih =>
    obtain ⟨first, others⟩ := List.forall_mem_cons.1 spares
    rw [applyAll_cons, lookCount_cons, ← Nat.add_assoc]
    exact ih (h.apply first) others

end Walked

/-- **Each script is walked on its own.**  Whatever was done to a store before, if only the claim
was not given another script and looks at it are answered, the next look at it shows the entry of
its script that is next by the number of looks at it alone, the last one if there are no more: a
refusal is answered as it is, conditions become the status of the claim that is there, which is
answered with them, and there is nothing to answer with if none is.

Every look is counted, one that is never answered or meets a refusal included.  And no look, listing
or report adds or removes a claim, or changes what was submitted. -/
theorem walks_scripts (s : Store) (ops : List Operation) (key : ClaimKey) :
    (∀ script, key ∉ s.hanging → s.scripts.find? key = some script → script ≠ [] →
      (∀ op ∈ ops, op.Spares key) →
      ∃ shown answer, scriptEntry script (lookCount key ops + 1) = some shown ∧
        ((s.applyAll ops).get key).2 = some answer ∧
        (s.applyAll ops).ShowsEntry key shown ((s.applyAll ops).get key).1 answer) ∧
    (s.applyAll ops).looksAt key = s.looksAt key + lookCount key ops ∧
    ∀ op : Operation, op.SubmitsNothing →
      ∀ k, (op.apply (s.applyAll ops)).entry k = (s.applyAll ops).entry k := by
  refine ⟨fun script awake found nonempty spares => ?_, looksAt_applyAll s ops key,
    fun op nothing k => Operation.entry_apply nothing _ k⟩
  have walked : Walked script (0 + lookCount key ops) (s.applyAll ops) key :=
    (Walked.start awake found nonempty).applyAll spares
  rw [Nat.zero_add] at walked
  exact walked.shows

/-- A claim is looked at in between looks at another that is never answered, is created only after
its first look and has a status reported: the third look shows the third entry of its script. -/
theorem walks_scripts_third :
    let a : ClaimKey := ⟨"kaito", "a"⟩
    let b : ClaimKey := ⟨"kaito", "b"⟩
    let script : List Snapshot := [.pending, .refusal 503 "unavailable", .ready]
    let s := (({} : Store).script a script).hang b
    let ops : List Operation := [.call (.get a), .call (.get b),
      .call (.create ⟨{ name := "a", ns := some "kaito" }, {}, none⟩), .script b [.pending],
      .report a [], .call (.get a), .call (.list "kaito" "")]
    a ∉ s.hanging ∧ s.scripts.find? a = some script ∧ script ≠ [] ∧
    (∀ op ∈ ops, op.Spares a) ∧
    ∃ claim answer, (s.applyAll ops).claims.find? a = some claim ∧
      ((s.applyAll ops).get a).2 = some answer ∧
      (s.applyAll ops).ShowsEntry a .ready ((s.applyAll ops).get a).1 answer ∧
      (s.applyAll ops).looksAt b = 1 := by
  intro a b script s ops
  have awake : a ∉ s.hanging := by decide +kernel
  have found : s.scripts.find? a = some script := by decide +kernel
  have spares : ∀ op ∈ ops, op.Spares a := by
    simp [ops, Operation.Spares, a, b]
  have there : ((s.applyAll ops).claims.find? a).isSome = true := by decide +kernel
  obtain ⟨claim, there⟩ := Option.isSome_iff_exists.1 there
  have twice : lookCount a ops = 2 := by decide +kernel
  have once : lookCount b ops = 1 := by decide +kernel
  obtain ⟨walks, -⟩ := walks_scripts s ops a
  obtain ⟨shown, answer, third, answered, shows⟩ :=
    walks script awake found (List.cons_ne_nil _ _) spares
  rw [twice] at third
  obtain rfl : Snapshot.ready = shown := Option.some.inj third
  obtain ⟨-, counted, -⟩ := walks_scripts s ops b
  rw [once] at counted
  exact ⟨awake, found, List.cons_ne_nil _ _, spares, claim, answer, there, answered, shows, counted⟩

end NodeProvisioning.Store
