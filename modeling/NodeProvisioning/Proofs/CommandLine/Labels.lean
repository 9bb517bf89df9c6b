import Mathlib.Data.List.Forall2
import Mathlib.Data.List.TakeWhile
import NodeProvisioning.Proofs.CommandLine.Durations
import NodeProvisioning.Proofs.Constraints
import NodeProvisioning.Proofs.Rendering

/-!
# Labels on the command line

A label is given as a key, an equals sign and a value.  The first equals sign is the one that
counts, so the key has none and the value may have any; and a text has at most one reading.  The
labels of a command line go into a map in the order in which they are given, and there the last of
several for one key stays.

From the map a label comes into a claim twice, as a label of the claim and as a requirement on its
node.  Each of the two sides reserves some keys for itself (see `Manifest.requirements_eq` and
`Manifest.find?_labels_of_ne`), and for every other key it has what was given last, and nothing
where the key was not given.

## Main definitions

* `CommandLine.Gives` — a text gives a key a value
* `CommandLine.LastGiven` — the value that the last text for a key gives

## Main statements

* `CommandLine.label_eq_ok_iff`, `CommandLine.label_eq_error_iff` — which texts are labels
* `CommandLine.find?_ofList_eq_some_iff` — the map has what was given last
* `ManifestRequest.labels_reach_claims` — labels from the command line to the rendered claims
-/

namespace NodeProvisioning

namespace CommandLine

variable {s key value : String} {texts : List String} {labels : List (String × String)}

/-! ## One label -/

/-- **A text gives a key a value**: it is the two with an equals sign between them, and the key is
not empty and has none. -/
structure Gives (s key value : String) : Prop where
  text : s = key ++ "=" ++ value
  nonempty : key ≠ ""
  plain : '=' ∉ key.toList

theorem Gives.toList (h : Gives s key value) : s.toList = key.toList ++ '=' :: value.toList := by
  rw [h.text]
  simp

/-- What stands before an equals sign that is the first. -/
theorem takeWhile_of_plain {key : List Char} (plain : '=' ∉ key) (value : List Char) :
    (key ++ '=' :: value).takeWhile (· ≠ '=') = key ∧
      (key ++ '=' :: value).dropWhile (· ≠ '=') = '=' :: value := by
  have before : ∀ c ∈ key, decide (c ≠ '=') = true := by
    intro c mem
    rw [decide_eq_true_eq]
    rintro rfl
    exact plain mem
  rw [List.takeWhile_append_of_pos before, List.dropWhile_append_of_pos before]
  simp

/-- **Which texts are labels.** -/
theorem label_eq_ok_iff : label s = .ok (key, value) ↔ Gives s key value := by
  constructor
  · intro read
    unfold label at read
    have whole := List.takeWhile_append_dropWhile (p := (· ≠ '=')) (l := s.toList)
    have stop := List.head?_dropWhile_not (fun c => decide (c ≠ '=')) s.toList
    have before : ∀ c ∈ s.toList.takeWhile (· ≠ '='), c ≠ '=' := fun c mem => by
      simpa using List.mem_takeWhile_imp mem
    dsimp only at read
    split at read
    · next c more sign rest front back =>
      rw [front] at before
      rw [back] at stop
      rw [front, back] at whole
      obtain rfl : sign = '=' := by simpa using stop
      cases read
      refine ⟨String.toList_injective ?_, ?_, ?_⟩
      · rw [← whole]
        simp
      · simp [← String.toList_inj]
      · rw [String.toList_ofList]
        exact fun mem => before '=' mem rfl
    · cases read
  · intro given
    obtain ⟨front, back⟩ := takeWhile_of_plain given.plain value.toList
    obtain ⟨c, more, begins⟩ : ∃ c more, key.toList = c :: more :=
      List.exists_cons_of_ne_nil fun none => given.nonempty (String.toList_eq_nil_iff.1 none)
    unfold label
    dsimp only
    rw [given.toList, front, back, begins]
    show Except.ok (String.ofList (c :: more), String.ofList value.toList) = _
    rw [← begins, String.ofList_toList, String.ofList_toList]

/-- A text that gives nothing is reported as it is. -/
theorem label_eq_error_iff {e : CommandError} :
    label s = .error e ↔ (∀ key value, ¬ Gives s key value) ∧
      e = .invalid ("invalid label '" ++ s ++ "', expected key=value") := by
  simp only [← label_eq_ok_iff]
  cases read : label s with
  | ok given =>
    constructor
    · nofun
    · rintro ⟨none, -⟩
      exact absurd rfl (none given.1 given.2)
  | error e' =>
    have reason : e' = .invalid ("invalid label '" ++ s ++ "', expected key=value") := by
      unfold label at read
      dsimp only at read
      split at read
      · cases read
      · cases read
        rfl
    simp [reason, eq_comm]

/-- A text gives one key one value. -/
theorem Gives.unique {key' value' : String} (h : Gives s key value) (h' : Gives s key' value') :
    key = key' ∧ value = value' := by
  have same := (label_eq_ok_iff.2 h).symm.trans (label_eq_ok_iff.2 h')
  simpa using same

/-! ## Any number of labels -/

/-- Labels are read one by one. -/
theorem readLabels_eq_ok_iff : readLabels texts = .ok labels ↔
    List.Forall₂ (fun s e => Gives s e.1 e.2) texts labels := by
  have one (s : String) (e : String × String) : readLabel s = .ok e ↔ Gives s e.1 e.2 := by
    rw [readLabel, orRefused_eq_ok_iff]
    exact label_eq_ok_iff
  induction texts generalizing labels with
  | nil => cases labels <;> simp [readLabels]
  | cons s rest ih =>
    rw [readLabels, bind_eq_ok_iff]
    simp only [one, bind_eq_ok_iff, ih]
    cases labels with
    | nil => simp [pure, Except.pure]
    | cons e more => simp [pure, Except.pure]

/-- Labels are read where each of them can be. -/
theorem exists_readLabels_iff : (∃ labels, readLabels texts = .ok labels) ↔
    ∀ s ∈ texts, ∃ key value, Gives s key value := by
  simp only [readLabels_eq_ok_iff]
  constructor
  · rintro ⟨labels, given⟩
    induction given with
    | nil => simp
    | @cons s e _ _ first _ ih => exact List.forall_mem_cons.2 ⟨⟨e.1, e.2, first⟩, ih⟩
  · intro given
    induction texts with
    | nil => exact ⟨[], .nil⟩
    | cons s rest ih =>
      obtain ⟨key, value, first⟩ := given s List.mem_cons_self
      obtain ⟨labels, others⟩ := ih fun t mem => given t (List.mem_cons_of_mem _ mem)
      exact ⟨(key, value) :: labels, .cons first others⟩

/-- **The value that a key is given last.** -/
inductive LastGiven (key value : String) : List String → Prop
  /-- This text gives it, and no later one gives the key a value. -/
  | here {s : String} {later : List String} (given : Gives s key value)
    (last : ∀ t ∈ later, ∀ other, ¬ Gives t key other) : LastGiven key value (s :: later)
  /-- A later text gives it. -/
  | later {s : String} {later : List String} (given : LastGiven key value later) :
    LastGiven key value (s :: later)

/-- What is given last is given. -/
theorem LastGiven.exists_gives (h : LastGiven key value texts) :
    ∃ s ∈ texts, Gives s key value := by
  induction h with
  | here given last => exact ⟨_, List.mem_cons_self, given⟩
  | later _ ih =>
    obtain ⟨s, mem, given⟩ := ih
    exact ⟨s, List.mem_cons_of_mem _ mem, given⟩

/-- What is given is given last by some text. -/
theorem exists_lastGiven (h : ∃ s ∈ texts, ∃ value, Gives s key value) :
    ∃ value, LastGiven key value texts := by
  induction texts with
  | nil => simp at h
  | cons t later ih =>
    by_cases again : ∃ s ∈ later, ∃ value, Gives s key value
    · obtain ⟨value, last⟩ := ih again
      exact ⟨value, .later last⟩
    · obtain ⟨s, mem, value, given⟩ := h
      have never : ∀ s ∈ later, ∀ other, ¬ Gives s key other := fun s mem other given =>
        again ⟨s, mem, other, given⟩
      rcases List.mem_cons.1 mem with rfl | mem
      · exact ⟨value, .here given never⟩
      · exact absurd given (never s mem value)

/-- **The map of the labels** binds a key to what it was given last. -/
theorem find?_ofList_eq_some_iff
    (given : List.Forall₂ (fun s e => Gives s e.1 e.2) texts labels) :
    (SortedMap.ofList labels).find? key = some value ↔ LastGiven key value texts := by
  induction given generalizing value with
  | nil =>
    constructor
    · nofun
    · nofun
  | @cons s e rest more first given ih =>
    rw [SortedMap.find?_ofList_cons]
    cases found : (SortedMap.ofList more).find? key with
    | some later =>
      have last : LastGiven key later rest := ih.1 found
      rw [Option.some_or, ← found, ih]
      refine ⟨.later, ?_⟩
      rintro (⟨-, never⟩ | later)
      · obtain ⟨t, mem, other⟩ := last.exists_gives
        exact absurd other (never t mem _)
      · exact later
    | none =>
      have never : ∀ t ∈ rest, ∀ other, ¬ Gives t key other := by
        intro t mem other given
        obtain ⟨last, isLast⟩ := exists_lastGiven ⟨t, mem, other, given⟩
        rw [ih.2 isLast] at found
        cases found
      rw [Option.none_or, Option.ite_none_right_eq_some, Option.some.injEq]
      constructor
      · rintro ⟨rfl, rfl⟩
        exact .here first never
      · rintro (⟨here, -⟩ | later)
        · exact first.unique here
        · obtain ⟨t, mem, other⟩ := later.exists_gives
          exact absurd other (never t mem _)

end CommandLine

/-! ## The claims -/

namespace Manifest

variable {w : Workload} {key value : String}

/-- Where no other element has the key of this one, looking for the key finds it alone. -/
theorem filter_eq_singleton {α : Type} {f : α → String} {l : List α} (nodup : (l.map f).Nodup)
    {a : α} (mem : a ∈ l) : l.filter (fun b => f b = f a) = [a] := by
  induction l with
  | nil => cases mem
  | cons b rest ih =>
    obtain ⟨fresh, nodup⟩ := List.nodup_cons.1 nodup
    rcases List.mem_cons.1 mem with rfl | later
    · rw [List.filter_cons_of_pos (by simp), List.filter_eq_nil_iff.2]
      intro c mem same
      exact fresh (List.mem_map.2 ⟨c, mem, by simpa using same⟩)
    · have other : f b ≠ f a := fun same => fresh (List.mem_map.2 ⟨a, later, same.symm⟩)
      rw [List.filter_cons_of_neg (by simpa using other)]
      exact ih nodup later

/-- **What is not fixed** is required exactly as it is selected: once, with the one value, or not at
all. -/
theorem filter_requirements_of_ne (type : key ≠ WellKnown.instanceTypeLabel)
    (pool : key ≠ WellKnown.nodePoolLabel) (os : key ≠ WellKnown.osLabel) :
    (requirements w).filter (fun r => r.key = key) =
      ((w.labelSelector.find? key).map (requireValue key)).toList := by
  have free : ∀ f ∈ fixedRequirements w, f.1 ≠ key := by
    simp [fixedRequirements, type.symm, pool.symm, os.symm]
  cases found : w.labelSelector.find? key with
  | some value =>
    have required : requireValue key value ∈ requirements w :=
      requireValue_mem_iff.2 (.inr ⟨free, found⟩)
    exact filter_eq_singleton (requirements_keys_nodup w) required
  | none =>
    refine List.filter_eq_nil_iff.2 fun r mem same => ?_
    obtain ⟨value, single⟩ := exists_requireValue mem
    obtain rfl : r.key = key := by simpa using same
    rw [single] at mem
    rcases requireValue_mem_iff.1 mem with fixed | ⟨-, selected⟩
    · exact free _ fixed rfl
    · rw [found] at selected
      cases selected

end Manifest

namespace ManifestRequest

open CommandLine

variable {r : ManifestRequest} {options : ManifestOptions} {text : String}

/-- The workload of a request selects what the request is labelled with. -/
theorem labelSelector_of_workload {w : Workload} (h : r.workload = .ok w) :
    w.labelSelector = SortedMap.ofList r.labels := by
  obtain ⟨v, -, rest⟩ := bind_eq_ok_iff.1 h
  cases rest
  rfl

/-- What is rendered are the claims of a workload. -/
theorem exists_workload_of_render (h : r.render options = .ok text) :
    ∃ w, r.workload = .ok w ∧ text = String.join ((w.claims options).map document) := by
  obtain ⟨w, found, rest⟩ := bind_eq_ok_iff.1 h
  cases rest
  exact ⟨w, found, rfl⟩

/-- **Labels from the command line to the claims.**  A text is a label exactly if it is a key and a
value with an equals sign between them, the key not empty and without one, and it gives just these
two.  All texts together are labels if each is.

What is then rendered are the claims of a workload, and no other claims are written as that text.
Apart from the labels that a claim or its requirements reserve, they have exactly the labels that
were given: a claim carries for each key the value that was given last, and requires that value for
it, once. -/
theorem labels_reach_claims (texts : List String) :
    (∀ s key value, label s = .ok (key, value) ↔ Gives s key value) ∧
    (∀ s e, label s = .error e ↔ (∀ key value, ¬ Gives s key value) ∧
      e = .invalid ("invalid label '" ++ s ++ "', expected key=value")) ∧
    ((∃ labels, readLabels texts = .ok labels) ↔ ∀ s ∈ texts, ∃ key value, Gives s key value) ∧
    ∀ r : ManifestRequest, readLabels texts = .ok r.labels →
      ∀ options text, r.render options = .ok text →
      ∃ w, r.workload = .ok w ∧ text = String.join ((w.claims options).map document) ∧
        (∀ c ∈ w.claims options, c.Writable) ∧
        (∀ claims : List NodeClaim, (∀ c ∈ claims, c.Writable) →
          (text = String.join (claims.map document) ↔ claims = w.claims options)) ∧
        ∀ claim ∈ w.claims options,
          (∀ key, key ≠ WellKnown.nodePoolLabel → key ≠ WellKnown.workspaceLabel →
            key ≠ WellKnown.workspaceNsLabel → ∀ value,
            claim.metadata.labelMap.find? key = some value ↔ LastGiven key value texts) ∧
          ∀ key, key ≠ WellKnown.instanceTypeLabel → key ≠ WellKnown.nodePoolLabel →
            key ≠ WellKnown.osLabel →
            let required := claim.spec.requirements.filter fun r => r.key = key
            (∀ value, LastGiven key value texts →
              required = [⟨key, .isIn, [value]⟩]) ∧
            ((∀ value, ¬ LastGiven key value texts) → required = []) := by
  refine ⟨fun s key value => label_eq_ok_iff, fun s e => label_eq_error_iff,
    exists_readLabels_iff, fun r read options text rendered => ?_⟩
  obtain ⟨w, found, rfl⟩ := exists_workload_of_render rendered
  have bound (key value : String) :
      w.labelSelector.find? key = some value ↔ LastGiven key value texts := by
    rw [labelSelector_of_workload found]
    exact find?_ofList_eq_some_iff (readLabels_eq_ok_iff.1 read)
  refine ⟨w, found, rfl, fun c => Workload.writable_of_mem_claims, fun _ => stream_eq_iff,
    fun claim mem => ?_⟩
  obtain ⟨i, -, rfl⟩ := List.mem_map.1 mem
  constructor
  · intro key pool name ns value
    rw [← bound, ← Manifest.find?_labels_of_ne pool name ns]
    rfl
  · intro key type pool os required
    have required_eq : required =
        ((w.labelSelector.find? key).map (Manifest.requireValue key)).toList :=
      Manifest.filter_requirements_of_ne type pool os
    constructor
    · intro value last
      rw [required_eq, (bound key value).2 last]
      rfl
    · intro never
      have unbound : w.labelSelector.find? key = none :=
        Option.eq_none_iff_forall_ne_some.2 fun value found =>
          never value ((bound key value).1 found)
      rw [required_eq, unbound]
      rfl

/-- A label that is given twice, the second time a value with an equals sign, and one that the
requirements reserve. -/
def givenTwice : List String := ["apps=first", "apps=a=b", "kubernetes.io/os=windows"]

/-- A request with these labels. -/
def requestTwice : ManifestRequest where
  target := ⟨"falcon", "kaito"⟩
  instanceType := "Standard_NC12s_v3"
  count := 2
  labels := [("apps", "first"), ("apps", "a=b"), ("kubernetes.io/os", "windows")]
  uid := none

/-- Each of its claims has the second value and requires it, and has the reserved label too. -/
theorem labels_reach_claims_twice :
    readLabels givenTwice = .ok requestTwice.labels ∧
    ∃ text w, requestTwice.render {} = .ok text ∧ requestTwice.workload = .ok w ∧
      w.nodeCount = 2 ∧ (∀ c ∈ w.claims {}, c.Writable) ∧
      (∀ claims : List NodeClaim, (∀ c ∈ claims, c.Writable) →
        (text = String.join (claims.map document) ↔ claims = w.claims {})) ∧
      ∀ claim ∈ w.claims {},
        claim.metadata.labelMap.find? "apps" = some "a=b" ∧
        claim.metadata.labelMap.find? WellKnown.osLabel = some "windows" ∧
        claim.spec.requirements.filter (fun r => r.key = "apps") =
          [⟨"apps", .isIn, ["a=b"]⟩] := by
  have read : readLabels givenTwice = .ok requestTwice.labels := by rfl
  have found : requestTwice.workload = .ok ⟨"falcon", "kaito", none, 2, "Standard_NC12s_v3",
      SortedMap.ofList requestTwice.labels⟩ := by decide +kernel
  have rendered := render_eq requestTwice {}
  rw [found, Except.map] at rendered
  obtain ⟨-, -, -, reach⟩ := labels_reach_claims givenTwice
  obtain ⟨w, same, -, writable, determined, each⟩ := reach requestTwice read {} _ rendered
  have os : Gives "kubernetes.io/os=windows" "kubernetes.io/os" "windows" :=
    ⟨by decide, by decide, by decide⟩
  have apps : LastGiven "apps" "a=b" givenTwice := by
    refine .later (.here ⟨by decide, by decide, by decide⟩ ?_)
    intro t mem other given
    rw [List.mem_singleton.1 mem] at given
    exact absurd (given.unique os).1 (by decide)
  have last : LastGiven "kubernetes.io/os" "windows" givenTwice :=
    .later (.later (.here os nofun))
  refine ⟨read, _, w, rendered, same, ?_, writable, determined, fun claim mem => ?_⟩
  · rw [found] at same
    cases same
    rfl
  · obtain ⟨labelled, required⟩ := each claim mem
    exact ⟨(labelled "apps" (by decide) (by decide) (by decide) _).2 apps,
      (labelled "kubernetes.io/os" (by decide) (by decide) (by decide) _).2 last,
      (required "apps" (by decide) (by decide) (by decide)).1 _ apps⟩

end ManifestRequest

end NodeProvisioning
