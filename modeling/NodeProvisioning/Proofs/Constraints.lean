import NodeProvisioning.Proofs.Requirements

/-!
# What a claim requires and how it is labelled

A claim speaks twice of the labels of its node: its requirements say which nodes will do, and its
own labels go to the node that it gets.  Both hold what the workload selects.  Besides, each side
fixes some labels itself, and there what is selected gives way: the requirements fix the instance
type, the pool and the operating system, the labels fix the pool and the workload that the claim
belongs to.

So there are three kinds of label.  What neither side fixes is on both as it was selected.  The
pool, which both fix, is the same on both.  But what one side alone fixes is on the other as it was
selected, and there the two may disagree.

## Main definitions

* `Manifest.fixedLabels` — the labels of every claim of a workload, beside
  `Manifest.fixedRequirements`
* `Manifest.Prevails` — what stands for a label: what is fixed, else what is selected
* `Manifest.Clash` — another value is selected than the one that one side alone fixes

## Main statements

* `Manifest.requireValue_mem_iff`, `Manifest.find?_labels_eq_some_iff` — on each side what is fixed
  prevails
* `Manifest.clash_iff` — requirements and labels disagree exactly in a clash
* `Workload.claim_sides_differ_iff` — the same of the claims that are built
-/

namespace NodeProvisioning

namespace Manifest

variable {w : Workload} {key value label : String}

/-- The labels of every claim of a workload, whatever it selects. -/
def fixedLabels (w : Workload) : List (String × String) := [
  (WellKnown.nodePoolLabel, WellKnown.nodePool),
  (WellKnown.workspaceLabel, w.name),
  (WellKnown.workspaceNsLabel, w.ns)]

/-- **What stands for a label** where some labels are fixed: the fixed value, and for the others
the one that is selected. -/
def Prevails (fixed : List (String × String)) (selected : Labels) (key value : String) : Prop :=
  (key, value) ∈ fixed ∨ (∀ f ∈ fixed, f.1 ≠ key) ∧ selected.find? key = some value

/-- Another value is selected for a label than the one that one side alone fixes.  The side that
fixes it keeps its own value, and the other has the selected one. -/
inductive Clash (w : Workload) : (key value label : String) → Prop
  /-- The requirements fix it, and the label is what was selected. -/
  | required {key own selected : String}
      (fixed : (key, own) ∈ [
        (WellKnown.instanceTypeLabel, w.instanceType),
        (WellKnown.osLabel, WellKnown.os)])
      (found : w.labelSelector.find? key = some selected) (differ : own ≠ selected) :
      Clash w key own selected
  /-- The labels fix it, and the requirement is what was selected. -/
  | labelled {key own selected : String}
      (fixed : (key, own) ∈ [
        (WellKnown.workspaceLabel, w.name),
        (WellKnown.workspaceNsLabel, w.ns)])
      (found : w.labelSelector.find? key = some selected) (differ : own ≠ selected) :
      Clash w key selected own

/-! ## The two sides -/

/-- **A claim requires** of its node what prevails over the fixed requirements. -/
theorem requireValue_mem_iff : requireValue key value ∈ requirements w ↔
    Prevails (fixedRequirements w) w.labelSelector key value := by
  have same (e : String × String) : requireValue e.1 e.2 = requireValue key value ↔
      e = (key, value) := by
    simp [requireValue, Prod.ext_iff]
  simp only [requirements_eq, List.mem_map, same, exists_eq_right, List.mem_append,
    selectedRequirements, List.mem_filter, List.all_eq_true, bne_iff_ne, Prevails,
    SortedMap.find?_eq_some_iff]
  rw [and_comm (a := (key, value) ∈ w.labelSelector.entries)]

/-- **A claim is labelled** with what prevails over the fixed labels. -/
theorem find?_labels_eq_some_iff : (labels w).find? key = some label ↔
    Prevails (fixedLabels w) w.labelSelector key label := by
  simp only [labels, SortedMap.find?_insert, Prevails, fixedLabels, List.mem_cons,
    List.not_mem_nil, or_false, Prod.mk.injEq, forall_eq_or_imp, forall_eq]
  by_cases ns : WellKnown.workspaceNsLabel = key
  · grind [WellKnown.workspaceLabel, WellKnown.workspaceNsLabel, WellKnown.nodePoolLabel]
  · by_cases name : WellKnown.workspaceLabel = key
    · grind [WellKnown.workspaceLabel, WellKnown.nodePoolLabel]
    · by_cases pool : WellKnown.nodePoolLabel = key <;> grind

/-! ## Which labels are fixed where -/

/-- Whatever both sides fix they fix to the same value. -/
theorem eq_of_both_fixed (required : (key, value) ∈ fixedRequirements w)
    (labelled : (key, label) ∈ fixedLabels w) : value = label := by
  simp only [fixedRequirements, fixedLabels, List.mem_cons, List.not_mem_nil, or_false,
    Prod.mk.injEq] at required labelled
  grind [WellKnown.instanceTypeLabel, WellKnown.osLabel, WellKnown.nodePoolLabel,
    WellKnown.workspaceLabel, WellKnown.workspaceNsLabel]

/-- The requirements alone fix instance type and operating system. -/
theorem required_alone_iff :
    (key, value) ∈ fixedRequirements w ∧ (∀ f ∈ fixedLabels w, f.1 ≠ key) ↔
      (key, value) ∈ [
        (WellKnown.instanceTypeLabel, w.instanceType),
        (WellKnown.osLabel, WellKnown.os)] := by
  simp only [fixedRequirements, fixedLabels, List.mem_cons, List.not_mem_nil, or_false,
    Prod.mk.injEq, forall_eq_or_imp, forall_eq]
  grind [WellKnown.instanceTypeLabel, WellKnown.osLabel, WellKnown.nodePoolLabel,
    WellKnown.workspaceLabel, WellKnown.workspaceNsLabel]

/-- The labels alone fix name and namespace of the workload. -/
theorem labelled_alone_iff :
    (key, value) ∈ fixedLabels w ∧ (∀ f ∈ fixedRequirements w, f.1 ≠ key) ↔
      (key, value) ∈ [
        (WellKnown.workspaceLabel, w.name),
        (WellKnown.workspaceNsLabel, w.ns)] := by
  simp only [fixedRequirements, fixedLabels, List.mem_cons, List.not_mem_nil, or_false,
    Prod.mk.injEq, forall_eq_or_imp, forall_eq]
  grind [WellKnown.instanceTypeLabel, WellKnown.osLabel, WellKnown.nodePoolLabel,
    WellKnown.workspaceLabel, WellKnown.workspaceNsLabel]

/-! ## Where they disagree -/

/-- **Where a claim contradicts itself.**  The values that prevail on the two sides are different
exactly in a clash. -/
theorem clash_iff : Clash w key value label ↔
    requireValue key value ∈ requirements w ∧ (labels w).find? key = some label ∧
      value ≠ label := by
  rw [requireValue_mem_iff, find?_labels_eq_some_iff]
  constructor
  · rintro (⟨fixed, found, differ⟩ | ⟨fixed, found, differ⟩)
    · obtain ⟨fixed, free⟩ := required_alone_iff.2 fixed
      exact ⟨.inl fixed, .inr ⟨free, found⟩, differ⟩
    · obtain ⟨fixed, free⟩ := labelled_alone_iff.2 fixed
      exact ⟨.inr ⟨free, found⟩, .inl fixed, differ.symm⟩
  · rintro ⟨fixed | ⟨free, found⟩, fixed' | ⟨free', found'⟩, differ⟩
    · exact absurd (eq_of_both_fixed fixed fixed') differ
    · exact .required (required_alone_iff.1 ⟨fixed, free'⟩) found' differ
    · exact .labelled (labelled_alone_iff.1 ⟨fixed', free⟩) found differ.symm
    · rw [found] at found'
      exact absurd (Option.some.inj found') differ

end Manifest

namespace Workload

/-- **Requirements and labels of a claim** have different values for a key that both have exactly in
a clash: for instance type and operating system the requirement keeps its own value and the label
is what was selected, for name and namespace of the workload the label keeps its own and the
requirement is what was selected.  For every other key, the pool's included, the requirement's one
value is the label's.  And wherever the workload selects a clash, its claims have it. -/
theorem claim_sides_differ_iff (w : Workload) (options : ManifestOptions) (index : String) :
    (∀ r ∈ (w.claim options index).spec.requirements, ∀ label,
      (w.claim options index).metadata.labelMap.find? r.key = some label →
      ∃ value, r.operator = .isIn ∧ r.values = [value] ∧
        (value ≠ label ↔ Manifest.Clash w r.key value label)) ∧
    ∀ key value label, Manifest.Clash w key value label →
      ⟨key, .isIn, [value]⟩ ∈ (w.claim options index).spec.requirements ∧
        (w.claim options index).metadata.labelMap.find? key = some label := by
  constructor
  · intro r required label labelled
    obtain ⟨value, single⟩ := Manifest.exists_requireValue required
    have form : r.operator = .isIn ∧ r.values = [value] := single ▸ ⟨rfl, rfl⟩
    refine ⟨value, form.1, form.2, fun differ => ?_,
      fun clash => (Manifest.clash_iff.1 clash).2.2⟩
    rw [single] at required
    exact Manifest.clash_iff.2 ⟨required, labelled, differ⟩
  · intro key value label clash
    obtain ⟨required, labelled, -⟩ := Manifest.clash_iff.1 clash
    exact ⟨required, labelled⟩

/-- A workload that selects nodes of another operating system. -/
def selectingWindows : Workload where
  name := "falcon-7b"
  ns := "kaito"
  uid := none
  nodeCount := 1
  instanceType := "Standard_NC12s_v3"
  labelSelector := (∅ : Labels).insert WellKnown.osLabel "windows"

/-- Its claims require the one operating system and are labelled with the other. -/
theorem claim_sides_differ_windows :
    Manifest.Clash selectingWindows WellKnown.osLabel "linux" "windows" ∧
    ⟨WellKnown.osLabel, .isIn, ["linux"]⟩ ∈
      (selectingWindows.claim {} "0").spec.requirements ∧
    (selectingWindows.claim {} "0").metadata.labelMap.find? WellKnown.osLabel = some "windows" := by
  have clash : Manifest.Clash selectingWindows WellKnown.osLabel "linux" "windows" :=
    .required (by decide) (by decide) (by decide)
  exact ⟨clash, (claim_sides_differ_iff selectingWindows {} "0").2 _ _ _ clash⟩

/-- **Not every claim is at one with itself.** -/
theorem not_claim_sides_agree : ¬ ∀ (w : Workload) (options : ManifestOptions) (index : String),
    ∀ r ∈ (w.claim options index).spec.requirements, ∀ label,
      (w.claim options index).metadata.labelMap.find? r.key = some label → r.values = [label] := by
  intro agree
  have same : ["linux"] = ["windows"] :=
    agree selectingWindows {} "0" ⟨WellKnown.osLabel, .isIn, ["linux"]⟩
      (by decide) "windows" (by decide)
  exact absurd same (by decide)

end Workload

end NodeProvisioning
