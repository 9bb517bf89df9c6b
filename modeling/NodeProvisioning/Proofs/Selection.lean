import NodeProvisioning.Manifest
import NodeProvisioning.Selector

/-!
# Which claims a workload's selector finds

The selector of a workload is written without escaping: two terms with a comma between them, each a
label, an equals sign and a value.  A text without commas is one term, whatever else is in it, since
a term is divided at its first equals sign and the labels have none.  So where neither name nor
namespace has a comma, the selector is read back as the two terms that were written, and it finds
the claims that carry these two labels with these values.

A comma in the name or the namespace cuts the value short in which it stands.  Then the selector
asks for a shorter text than the one that the workload's own claims carry, and finds none of them.

## Main statements

* `Selector.pieces_append`, `Selector.Term.read_equals` — reading what was written
* `Workload.read_selector` — the terms of a workload's selector
* `Workload.selects_labels_iff` — it finds the claims of the workloads of that name and namespace
* `Workload.selects_labels_of_comma` — with a comma it finds none of the workload's own
* `Workload.selects_claim` — both, for the claims that are built
-/

namespace NodeProvisioning

namespace Selector

/-- A text without the separator is one piece. -/
theorem pieces_of_not_mem {sep : Char} {l : List Char} (absent : sep ∉ l) : pieces sep l = [l] := by
  induction l with
  | nil => rfl
  | cons c rest ih =>
    rw [List.mem_cons, not_or] at absent
    obtain ⟨other, later⟩ := absent
    rw [pieces, if_neg (Ne.symm other), ih later]

/-- A text up to the first separator is the first piece. -/
theorem pieces_append {sep : Char} {l : List Char} (rest : List Char) (absent : sep ∉ l) :
    pieces sep (l ++ sep :: rest) = l :: pieces sep rest := by
  induction l with
  | nil => rw [List.nil_append, pieces, if_pos rfl]
  | cons c more ih =>
    rw [List.mem_cons, not_or] at absent
    obtain ⟨other, later⟩ := absent
    rw [List.cons_append, pieces, if_neg (Ne.symm other), ih later]

/-- A label without an equals sign, the sign, and any value are read as they were written. -/
theorem Term.read_equals {key : List Char} (value : List Char) (absent : '=' ∉ key) :
    Term.read (key ++ '=' :: value) = .equals (String.ofList key) (String.ofList value) := by
  have isKey : ∀ c ∈ key, decide (c ≠ '=') = true := by
    intro c mem
    have other : c ≠ '=' := by
      rintro rfl
      exact absent mem
    simpa using other
  unfold Term.read
  rw [List.dropWhile_append_of_pos isKey, List.takeWhile_append_of_pos isKey]
  simp

/-- A term up to the first comma is read, and then the rest. -/
theorem read_append {term : List Char} (rest : List Char) (nonempty : term ≠ [])
    (absent : ',' ∉ term) :
    read (String.ofList (term ++ ',' :: rest)) = Term.read term :: read (String.ofList rest) := by
  unfold read
  rw [String.toList_ofList, String.toList_ofList, pieces_append rest absent,
    List.filter_cons_of_pos (by simpa using nonempty), List.map_cons]

/-- **A value with a comma is cut short.**  What is asked for is the text before its first comma,
which is another one. -/
theorem read_equals_of_comma {value : List Char} (key rest : List Char) (noEquals : '=' ∉ key)
    (noComma : ',' ∉ key) (comma : ',' ∈ value) :
    ∃ short : String, short ≠ String.ofList value ∧
      .equals (String.ofList key) short ∈ read (String.ofList (key ++ '=' :: value ++ rest)) := by
  obtain ⟨first, after, rfl, absent⟩ := List.eq_append_cons_of_mem comma
  refine ⟨String.ofList first, fun same => ?_, ?_⟩
  · have same : first = first ++ ',' :: after := String.ofList_injective same
    simp at same
  · have cut : key ++ '=' :: (first ++ ',' :: after) ++ rest =
        (key ++ '=' :: first) ++ ',' :: (after ++ rest) := by simp
    have nonempty : key ++ '=' :: first ≠ [] := by simp
    have unbroken : ',' ∉ key ++ '=' :: first := by simp [noComma, absent]
    rw [cut, read_append _ nonempty unbroken, Term.read_equals first noEquals]
    exact List.mem_cons_self

/-- Labels that do not have the value that a term asks for are not selected. -/
theorem selects_eq_false {selector key value : String} {labels : Labels}
    (asked : .equals key value ∈ read selector) (other : labels.find? key ≠ some value) :
    selects selector labels = false :=
  List.all_eq_false.2 ⟨_, asked, by simpa [Term.accepts] using other⟩

end Selector

namespace Manifest

/-- A claim carries the name of its workload, whatever labels were selected. -/
@[simp] theorem find?_labels_workspace (v : Workload) :
    (labels v).find? WellKnown.workspaceLabel = some v.name := by
  rw [labels, SortedMap.find?_insert, if_neg (by decide), SortedMap.find?_insert, if_pos rfl]

/-- A claim carries the namespace of its workload, whatever labels were selected. -/
@[simp] theorem find?_labels_workspaceNs (v : Workload) :
    (labels v).find? WellKnown.workspaceNsLabel = some v.ns := by
  rw [labels, SortedMap.find?_insert, if_pos rfl]

end Manifest

namespace Workload

variable {w : Workload}

/-- **The selector is read as it was written**, as long as name and namespace have no comma. -/
theorem read_selector (name : ',' ∉ w.name.toList) (ns : ',' ∉ w.ns.toList) :
    Selector.read w.selector =
      [.equals WellKnown.workspaceLabel w.name, .equals WellKnown.workspaceNsLabel w.ns] := by
  let first : List Char := WellKnown.workspaceLabel.toList ++ '=' :: w.name.toList
  let second : List Char := WellKnown.workspaceNsLabel.toList ++ '=' :: w.ns.toList
  have written : w.selector.toList = first ++ ',' :: second := by
    simp [selector, first, second]
  have noComma : ',' ∉ first := by
    have label : ',' ∉ WellKnown.workspaceLabel.toList := by decide
    simp [first, label, name]
  have noComma' : ',' ∉ second := by
    have label : ',' ∉ WellKnown.workspaceNsLabel.toList := by decide
    simp [second, label, ns]
  have nonempty : first ≠ [] ∧ second ≠ [] := by simp [first, second]
  unfold Selector.read
  rw [written, Selector.pieces_append second noComma, Selector.pieces_of_not_mem noComma']
  rw [List.filter_cons_of_pos (by simpa using nonempty.1),
    List.filter_cons_of_pos (by simpa using nonempty.2), List.filter_nil, List.map_cons,
    List.map_cons, List.map_nil]
  rw [Selector.Term.read_equals w.name.toList (by decide),
    Selector.Term.read_equals w.ns.toList (by decide)]
  simp

/-- **The claims that a selector finds** are those of the workloads of its name and namespace. -/
theorem selects_labels_iff (name : ',' ∉ w.name.toList) (ns : ',' ∉ w.ns.toList) (v : Workload) :
    Selector.selects w.selector (Manifest.labels v) = true ↔ v.name = w.name ∧ v.ns = w.ns := by
  unfold Selector.selects
  rw [read_selector name ns]
  simp [Selector.Term.accepts]

/-- **With a comma in name or namespace** a selector does not find the workload's own claims. -/
theorem selects_labels_of_comma (comma : ',' ∈ w.name.toList ∨ ',' ∈ w.ns.toList) :
    Selector.selects w.selector (Manifest.labels w) = false := by
  let first : List Char := WellKnown.workspaceLabel.toList ++ '=' :: w.name.toList
  let second : List Char := WellKnown.workspaceNsLabel.toList ++ '=' :: w.ns.toList
  have written : w.selector = String.ofList (first ++ ',' :: second) :=
    String.toList_injective (by simp [selector, first, second])
  by_cases name : ',' ∈ w.name.toList
  · obtain ⟨short, other, asked⟩ := Selector.read_equals_of_comma
      WellKnown.workspaceLabel.toList (',' :: second) (by decide) (by decide) name
    rw [String.ofList_toList] at other asked
    refine Selector.selects_eq_false (written ▸ asked) ?_
    rw [Manifest.find?_labels_workspace]
    exact fun same => other (Option.some.inj same).symm
  · -- The first term is read as it was written, and the second is cut short.
    have nonempty : first ≠ [] := by simp [first]
    have unbroken : ',' ∉ first := by
      have label : ',' ∉ WellKnown.workspaceLabel.toList := by decide
      simp [first, label, name]
    obtain ⟨short, other, asked⟩ := Selector.read_equals_of_comma
      WellKnown.workspaceNsLabel.toList [] (by decide) (by decide) (comma.resolve_left name)
    rw [List.append_nil] at asked
    rw [String.ofList_toList] at other asked
    have asked : .equals WellKnown.workspaceNsLabel short ∈ Selector.read w.selector := by
      rw [written, Selector.read_append second nonempty unbroken]
      exact List.mem_cons_of_mem _ asked
    refine Selector.selects_eq_false asked ?_
    rw [Manifest.find?_labels_workspaceNs]
    exact fun same => other (Option.some.inj same).symm

/-- **Whose claims a selector finds.**  Where the name and the namespace of a workload have no
comma, its selector finds the claims of the workloads with this name in this namespace and no
others, whatever labels these select; where one of the two has a comma, it finds no claim of the
workload itself. -/
theorem selects_claim (w v : Workload) (options : ManifestOptions) (index : String) :
    (',' ∉ w.name.toList ∧ ',' ∉ w.ns.toList →
      (Selector.selects w.selector (v.claim options index).metadata.labelMap = true ↔
        v.name = w.name ∧ v.ns = w.ns)) ∧
    (',' ∈ w.name.toList ∨ ',' ∈ w.ns.toList →
      Selector.selects w.selector (w.claim options index).metadata.labelMap = false) :=
  ⟨fun ⟨name, ns⟩ => selects_labels_iff name ns v, selects_labels_of_comma⟩

end Workload

end NodeProvisioning
