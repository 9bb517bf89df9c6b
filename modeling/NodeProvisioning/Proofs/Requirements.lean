import NodeProvisioning.Proofs.Selection

/-!
# Which constraints a claim is given

The requirements of a claim are gathered one at a time: the fixed ones stand there from the
beginning, and a selected label is added unless something gathered so far has its key.  So the keys
stay distinct whatever is added in whatever order (`Manifest.require_keys_nodup`), even where a key
comes twice.

That nothing is lost by this is due to where the labels come from.  A map has each key once, so a
selected label can only be passed over for a fixed one, and what the growing list amounts to is a
filter that looks at the fixed keys alone (`Manifest.foldl_require`).

## Main definitions

* `Manifest.selectedRequirements` — the selected labels that are required

## Main statements

* `Manifest.require_keys_nodup`, `Manifest.foldl_require_keys_nodup` — keys stay distinct
* `Manifest.foldl_require`, `Manifest.requirements_eq` — what is gathered
* `Manifest.find?_labels_of_ne` — a label that is not fixed is as it was selected
* `Workload.claim_constraints` — requirements and labels of the claims that are built
-/

namespace NodeProvisioning

namespace Manifest

open NodeClaim

variable {w : Workload} {reqs : List Requirement} {e : String × String} {key value : String}

/-! ## One more label -/

/-- A label that is required already is passed over. -/
theorem require_of_mem (h : e.1 ∈ reqs.map (·.key)) : require reqs e = reqs := by
  rw [require, if_pos]
  simpa using h

/-- Any other label is required after the others. -/
theorem require_of_not_mem (h : e.1 ∉ reqs.map (·.key)) :
    require reqs e = reqs ++ [requireValue e.1 e.2] := by
  rw [require, if_neg]
  simpa using h

/-- **Requiring a label** keeps the keys distinct. -/
theorem require_keys_nodup (nodup : (reqs.map (·.key)).Nodup) (e : String × String) :
    ((require reqs e).map (·.key)).Nodup := by
  by_cases mem : e.1 ∈ reqs.map (·.key)
  · rwa [require_of_mem mem]
  · rw [require_of_not_mem mem, List.map_append, List.map_singleton]
    refine List.nodup_append.2 ⟨nodup, by simp, fun a there b added same => mem ?_⟩
    rwa [same, List.mem_singleton.1 added] at there

/-! ## Any number of labels -/

/-- **Requiring labels**, with whatever keys, keeps the keys distinct. -/
theorem foldl_require_keys_nodup (nodup : (reqs.map (·.key)).Nodup) (l : List (String × String)) :
    ((l.foldl require reqs).map (·.key)).Nodup := by
  induction l generalizing reqs with
  | nil => exact nodup
  | cons e rest ih => exact ih (require_keys_nodup nodup e)

/-- **Labels of distinct keys** are required in order, but for those whose key was there before
the first of them. -/
theorem foldl_require {l : List (String × String)} (distinct : (l.map (·.1)).Nodup) :
    l.foldl require reqs =
      reqs ++ (l.filter fun e => e.1 ∉ reqs.map (·.key)).map fun e => requireValue e.1 e.2 := by
  induction l generalizing reqs with
  | nil => simp
  | cons e rest ih =>
    obtain ⟨other, distinct⟩ := List.nodup_cons.1 distinct
    rw [List.foldl_cons, ih distinct]
    by_cases mem : e.1 ∈ reqs.map (·.key)
    · rw [require_of_mem mem, List.filter_cons_of_neg (by simpa using mem)]
    · -- The key that is added is none of those still to come, so it keeps nothing out.
      have same : (rest.filter fun x => x.1 ∉ (require reqs e).map (·.key)) =
          rest.filter fun x => x.1 ∉ reqs.map (·.key) := by
        refine List.filter_congr fun x later => ?_
        have ne : x.1 ≠ e.1 := fun same => other (List.mem_map.2 ⟨x, later, same⟩)
        simp [require_of_not_mem mem, requireValue, ne]
      rw [same, require_of_not_mem mem, List.filter_cons_of_pos (by simpa using mem)]
      simp

/-! ## The requirements of a workload -/

/-- The selected labels that are not among the fixed ones. -/
def selectedRequirements (w : Workload) : List (String × String) :=
  w.labelSelector.entries.filter fun e => (fixedRequirements w).all fun f => f.1 != e.1

/-- **The requirements** are the fixed ones, and after them the selected ones in key order. -/
theorem requirements_eq (w : Workload) :
    requirements w = (fixedRequirements w ++ selectedRequirements w).map fun e =>
      requireValue e.1 e.2 := by
  rw [requirements, foldl_require w.labelSelector.keys_nodup, List.map_append]
  congr 2
  refine List.filter_congr fun e _ => Bool.eq_iff_iff.2 ?_
  simp [fixedRequirements, requireValue, @eq_comm _ e.1]

/-- What is selected is required unless it is fixed. -/
theorem mem_selectedRequirements_iff : (key, value) ∈ selectedRequirements w ↔
    w.labelSelector.find? key = some value ∧ ∀ f ∈ fixedRequirements w, f.1 ≠ key := by
  rw [SortedMap.find?_eq_some_iff]
  simp [selectedRequirements]

/-- The selected labels are required in strictly increasing key order. -/
theorem selectedRequirements_pairwise (w : Workload) :
    ((selectedRequirements w).map (·.1)).Pairwise (· < ·) :=
  List.pairwise_map.2 (w.labelSelector.sorted.filter _)

/-- Every requirement has a key of its own. -/
theorem requirements_keys_nodup (w : Workload) : ((requirements w).map (·.key)).Nodup := by
  have fixed : (((fixedRequirements w).map fun e => requireValue e.1 e.2).map (·.key)).Nodup := by
    show [WellKnown.instanceTypeLabel, WellKnown.nodePoolLabel, WellKnown.osLabel].Nodup
    decide
  exact foldl_require_keys_nodup fixed w.labelSelector.entries

/-- Every requirement is one of a single value. -/
theorem exists_requireValue {r : Requirement} (mem : r ∈ requirements w) :
    ∃ value, r = requireValue r.key value := by
  rw [requirements_eq] at mem
  obtain ⟨e, -, rfl⟩ := List.mem_map.1 mem
  exact ⟨e.2, rfl⟩

/-! ## The labels of a workload -/

/-- A claim carries the pool, whatever labels were selected. -/
@[simp] theorem find?_labels_nodePool (w : Workload) :
    (labels w).find? WellKnown.nodePoolLabel = some WellKnown.nodePool := by
  rw [labels, SortedMap.find?_insert, if_neg (by decide), SortedMap.find?_insert,
    if_neg (by decide), SortedMap.find?_insert, if_pos rfl]

/-- **Any label that is not fixed** is carried as it was selected, or not at all. -/
theorem find?_labels_of_ne (pool : key ≠ WellKnown.nodePoolLabel)
    (name : key ≠ WellKnown.workspaceLabel) (ns : key ≠ WellKnown.workspaceNsLabel) :
    (labels w).find? key = w.labelSelector.find? key := by
  rw [labels, SortedMap.find?_insert, if_neg ns.symm, SortedMap.find?_insert, if_neg name.symm,
    SortedMap.find?_insert, if_neg pool.symm]

end Manifest

namespace Workload

/-- **The constraints of a claim.**  Its requirements have distinct keys, and each asks for one
value of its label.  First come instance type, pool and operating system, in this order; after them
come exactly the selected labels with other keys, each with the value that is selected for it, in
strictly increasing key order.

The claim itself is labelled with the pool and with name and namespace of its workload, and for any
other key it has exactly the label that is selected, if there is one. -/
theorem claim_constraints (w : Workload) (options : ManifestOptions) (index : String) :
    let reqs := (w.claim options index).spec.requirements
    let labels := (w.claim options index).metadata.labelMap
    (reqs.map (·.key)).Nodup ∧
    (∀ r ∈ reqs, r.operator = .isIn ∧ ∃ value, r.values = [value]) ∧
    (∃ selected : List (String × String),
      reqs = ⟨WellKnown.instanceTypeLabel, .isIn, [w.instanceType]⟩ ::
        ⟨WellKnown.nodePoolLabel, .isIn, ["kaito"]⟩ :: ⟨WellKnown.osLabel, .isIn, ["linux"]⟩ ::
        selected.map (fun e => ⟨e.1, .isIn, [e.2]⟩) ∧
      (∀ key value, (key, value) ∈ selected ↔ w.labelSelector.find? key = some value ∧
        key ≠ WellKnown.instanceTypeLabel ∧ key ≠ WellKnown.nodePoolLabel ∧
        key ≠ WellKnown.osLabel) ∧
      (selected.map (·.1)).Pairwise (· < ·)) ∧
    labels.find? WellKnown.nodePoolLabel = some "kaito" ∧
    labels.find? WellKnown.workspaceLabel = some w.name ∧
    labels.find? WellKnown.workspaceNsLabel = some w.ns ∧
    ∀ key, key ≠ WellKnown.nodePoolLabel → key ≠ WellKnown.workspaceLabel →
      key ≠ WellKnown.workspaceNsLabel → labels.find? key = w.labelSelector.find? key := by
  refine ⟨Manifest.requirements_keys_nodup w, fun r mem => ?_,
    ⟨Manifest.selectedRequirements w, Manifest.requirements_eq w, fun key value => ?_,
      Manifest.selectedRequirements_pairwise w⟩,
    Manifest.find?_labels_nodePool w, Manifest.find?_labels_workspace w,
    Manifest.find?_labels_workspaceNs w, fun key => Manifest.find?_labels_of_ne⟩
  · obtain ⟨value, single⟩ := Manifest.exists_requireValue mem
    exact single ▸ ⟨rfl, value, rfl⟩
  · rw [Manifest.mem_selectedRequirements_iff]
    simp [Manifest.fixedRequirements, eq_comm]

end Workload

end NodeProvisioning
