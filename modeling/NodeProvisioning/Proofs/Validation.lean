import NodeProvisioning.Proofs.Codec.Meaning
import NodeProvisioning.Proofs.Trimming
import NodeProvisioning.Workload

/-!
# Which workspaces are accepted

A workspace is accepted if it has a resource block that means something, is in a namespace, does not
ask for zero nodes, and names an instance type with a character that is not blank.  What a resource
block means is stated of the values themselves: a count that is absent or null is not given, an
instance type that is absent is empty, and of a label selector all parts have to make sense,
although only the labels are looked at afterwards.

The reader finds faults one after the other, so of several the first is reported.  Each way of being
refused therefore comes with what was passed before it, and the ways exclude each other.

## Main definitions

* `ResourceBlock.meaning` — what a resource block asks for
* `WorkspaceObject.Usable` — an accepted workspace, and its workload
* `WorkspaceObject.Refused` — a workspace that is not accepted, and the fault that is reported

## Main statements

* `ResourceBlock.decode_finds` — a resource block is read as what it means
* `WorkspaceObject.workload_eq_ok_iff`, `WorkspaceObject.workload_eq_error_iff` — both outcomes
* `WorkspaceObject.workload_exact` — validation in full
-/

namespace NodeProvisioning

open Meaning (Field Record)

/-! ## What a resource block asks for -/

/-- What a condition on one label says; a text that is not given is empty. -/
def LabelExpression.meaning : Meaning LabelExpression := fun v e =>
  ∃ members key operator, v = .obj members ∧ Field .text members "key" key ∧
    Field .text members "operator" operator ∧
    Field (.list .text) members "values" e.values ∧
    e.key = key.getD "" ∧ e.operator = operator.getD ""

/-- What a label selector says. -/
def LabelSelector.meaning : Meaning LabelSelector := fun v s =>
  ∃ members, v = .obj members ∧
    Field (.list LabelExpression.meaning) members "matchExpressions" s.matchExpressions ∧
    Field (.map .text) members "matchLabels" s.matchLabels

/-- **What a resource block asks for.**  The count may be absent or null, and the label selector
too; the instance type may be absent, and is then empty. -/
def ResourceBlock.meaning : Meaning ResourceBlock := fun v r =>
  ∃ members, Record ["count", "instanceType", "labelSelector"] v members ∧
    Field (.natural 32) members "count" r.count ∧
    (Json.lookup "instanceType" members = none ∧ r.instanceType = "" ∨
      Json.lookup "instanceType" members = some (.str r.instanceType)) ∧
    Field LabelSelector.meaning members "labelSelector" r.labelSelector

theorem LabelExpression.decode_finds : Decoder.Finds decode meaning := by
  intro v e
  unfold decode meaning
  simp only [bind_eq_ok_iff, Json.openRecord_eq_ok_iff,
    Fields.nullable_eq_ok_iff Decoder.string_finds,
    Fields.nullable_eq_ok_iff Decoder.string_finds.list]
  constructor
  · rintro ⟨fs, ⟨rfl, -⟩, key, hkey, operator, hoperator, values, hvalues, made⟩
    cases made
    exact ⟨fs.members, key, operator, rfl, hkey, hoperator, hvalues, rfl, rfl⟩
  · rintro ⟨members, key, operator, rfl, hkey, hoperator, hvalues, keyIs, operatorIs⟩
    refine ⟨⟨members, .missingField⟩, ⟨rfl, rfl⟩, key, hkey, operator, hoperator, e.values, hvalues,
      ?_⟩
    rw [← keyIs, ← operatorIs]
    rfl

theorem LabelSelector.decode_finds : Decoder.Finds decode meaning := by
  intro v s
  unfold decode meaning
  simp only [bind_eq_ok_iff, Json.openRecord_eq_ok_iff,
    Fields.nullable_eq_ok_iff LabelExpression.decode_finds.list,
    Fields.nullable_eq_ok_iff Decoder.string_finds.map]
  constructor
  · rintro ⟨fs, ⟨rfl, -⟩, expressions, hexpressions, labels, hlabels, made⟩
    cases made
    exact ⟨fs.members, rfl, hexpressions, hlabels⟩
  · rintro ⟨members, rfl, hexpressions, hlabels⟩
    exact ⟨⟨members, .missingField⟩, ⟨rfl, rfl⟩, _, hexpressions, _, hlabels, rfl⟩

/-- **A resource block** is read as what it asks for, and otherwise refused. -/
theorem ResourceBlock.decode_finds : Decoder.Finds decode meaning := by
  intro v r
  unfold decode meaning
  simp only [bind_eq_ok_iff, Fields.nullable_eq_ok_iff (Decoder.natural_finds 32),
    Fields.optional_eq_ok_iff Decoder.string_finds,
    Fields.nullable_eq_ok_iff LabelSelector.decode_finds]
  constructor
  · rintro ⟨fs, read, count, hcount, type, htype, selector, hselector, made⟩
    cases made
    refine ⟨fs.members, Json.record_eq_ok_iff.1 ⟨fs, read, rfl⟩, hcount, ?_, hselector⟩
    rcases htype with ⟨absent, rfl⟩ | ⟨v, given, found, rfl, rfl⟩
    · exact .inl ⟨absent, rfl⟩
    · exact .inr found
  · rintro ⟨members, record, hcount, htype, hselector⟩
    obtain ⟨fs, read, rfl⟩ := (@Json.record_eq_ok_iff "struct ResourceSpec" _ _ _).2 record
    rcases htype with ⟨absent, empty⟩ | found
    · refine ⟨fs, read, _, hcount, none, .inl ⟨absent, rfl⟩, _, hselector, ?_⟩
      rw [Option.getD_none, ← empty]
      rfl
    · exact ⟨fs, read, _, hcount, _, .inr ⟨_, _, found, rfl, rfl⟩, _, hselector, rfl⟩

/-! ## Validation -/

namespace Workload

variable {name ns : String} {r : ResourceBlock} {w : Workload}

/-- The one count that will not do. -/
theorem getD_count_eq_zero_iff : r.count.getD 1 = 0 ↔ r.count = some 0 := by
  cases r.count <;> simp

/-- **What passes validation** becomes a workload without an owner. -/
theorem validate_eq_ok_iff : validate name ns r = .ok w ↔
    ns ≠ "" ∧ r.count ≠ some 0 ∧ (∃ c ∈ r.instanceType.toList, Text.isBlank c = false) ∧
      w = { name, ns, uid := none, nodeCount := r.count.getD 1, instanceType := r.instanceType,
            labelSelector := r.labels } := by
  rw [← Text.trim_ne_empty_iff]
  unfold validate
  simp only [getD_count_eq_zero_iff]
  split
  · next empty => simp [empty]
  · next given =>
    split
    · next zero => simp [zero]
    · next positive =>
      split
      · next blank => simp [blank]
      · next visible => simp [given, positive, visible, eq_comm]

/-- **Why something does not pass**: the first of namespace, count and instance type. -/
theorem validate_eq_error_iff {e : Fault} : validate name ns r = .error e ↔
    ns = "" ∧ e = .validationOf name "metadata.namespace" "workspace must be namespaced" ∨
    ns ≠ "" ∧ r.count = some 0 ∧
      e = .validationOf name "resource.count" "node count must be at least 1" ∨
    ns ≠ "" ∧ r.count ≠ some 0 ∧ (∀ c ∈ r.instanceType.toList, Text.isBlank c = true) ∧
      e = .validationOf name "resource.instanceType" "instance type must not be empty" := by
  rw [← Text.trim_eq_empty_iff]
  constructor
  · intro failed
    unfold validate at failed
    simp only [getD_count_eq_zero_iff] at failed
    split at failed
    · next empty =>
      cases failed
      exact .inl ⟨empty, rfl⟩
    · next given =>
      split at failed
      · next zero =>
        cases failed
        exact .inr (.inl ⟨given, zero, rfl⟩)
      · next positive =>
        split at failed
        · next blank =>
          cases failed
          exact .inr (.inr ⟨given, positive, blank, rfl⟩)
        · cases failed
  · unfold validate
    simp only [getD_count_eq_zero_iff]
    rintro (⟨empty, rfl⟩ | ⟨given, zero, rfl⟩ | ⟨given, positive, blank, rfl⟩)
    · rw [if_pos empty]
    · rw [if_neg given, if_pos zero]
    · rw [if_neg given, if_neg positive, if_pos blank]

end Workload

/-! ## Workspaces -/

namespace WorkspaceObject

variable {o : WorkspaceObject} {w : Workload} {e : Fault}

/-- **An accepted workspace** and its workload. -/
inductive Usable (o : WorkspaceObject) : Workload → Prop
  | of {block : Json} {r : ResourceBlock} {ns : String}
    (found : Json.lookup "resource" o.members = some block)
    (means : ResourceBlock.meaning block r)
    (inNamespace : o.metadata.ns = some ns) (named : ns ≠ "")
    (count : r.count ≠ some 0)
    (visible : ∃ c ∈ r.instanceType.toList, Text.isBlank c = false) :
    Usable o {
      name := o.metadata.anyName, ns, uid := o.metadata.uid, nodeCount := r.count.getD 1
      instanceType := r.instanceType
      labelSelector := (r.labelSelector.bind fun s => s.matchLabels).getD ∅ }

/-- **A workspace that is not accepted**, and the fault that is reported, which is the first that
there is. -/
inductive Refused (o : WorkspaceObject) : Fault → Prop
  /-- There is no resource block. -/
  | noBlock (absent : Json.lookup "resource" o.members = none) :
    Refused o (.invalid o.metadata.anyName "workspace has no resource block" (some "resource"))
  /-- The resource block means nothing. -/
  | undecodable {block : Json} {cause : DecodeError}
    (found : Json.lookup "resource" o.members = some block)
    (meaningless : ∀ r, ¬ ResourceBlock.meaning block r)
    (read : ResourceBlock.decode block = .error cause) :
    Refused o (.undecodable ("invalid resource block: " ++ cause.message) (some "Workspace"))
  /-- There is no namespace. -/
  | noNamespace {block : Json} {r : ResourceBlock}
    (found : Json.lookup "resource" o.members = some block)
    (means : ResourceBlock.meaning block r) (ns : o.metadata.ns = none ∨ o.metadata.ns = some "") :
    Refused o (.invalid o.metadata.anyName "workspace must be namespaced"
      (some "metadata.namespace"))
  /-- No nodes are asked for. -/
  | noNodes {block : Json} {r : ResourceBlock} {ns : String}
    (found : Json.lookup "resource" o.members = some block)
    (means : ResourceBlock.meaning block r) (inNamespace : o.metadata.ns = some ns)
    (named : ns ≠ "") (count : r.count = some 0) :
    Refused o (.invalid o.metadata.anyName "node count must be at least 1" (some "resource.count"))
  /-- The instance type is blank. -/
  | blankType {block : Json} {r : ResourceBlock} {ns : String}
    (found : Json.lookup "resource" o.members = some block)
    (means : ResourceBlock.meaning block r) (inNamespace : o.metadata.ns = some ns)
    (named : ns ≠ "") (count : r.count ≠ some 0)
    (blank : ∀ c ∈ r.instanceType.toList, Text.isBlank c = true) :
    Refused o (.invalid o.metadata.anyName "instance type must not be empty"
      (some "resource.instanceType"))

/-- Where there is a resource block, it is read and then validated. -/
theorem workload_of_lookup {block : Json} (found : Json.lookup "resource" o.members = some block) :
    o.workload = match ResourceBlock.decode block with
      | .error e =>
        .error (.undecodable ("invalid resource block: " ++ e.message) (some "Workspace"))
      | .ok r => (Workload.validate o.metadata.anyName (o.metadata.ns.getD "") r).map
          fun w => w.withUid o.metadata.uid := by
  unfold workload
  rw [found]
  dsimp only
  cases ResourceBlock.decode block with
  | error e => rfl
  | ok r =>
    dsimp only
    cases Workload.validate o.metadata.anyName (o.metadata.ns.getD "") r <;> rfl

theorem workload_of_absent (absent : Json.lookup "resource" o.members = none) :
    o.workload = .error (.invalid o.metadata.anyName "workspace has no resource block"
      (some "resource")) := by
  unfold workload
  rw [absent]
  rfl

/-- A namespace counts as absent when it is empty. -/
theorem getD_ns_eq_empty_iff {ns : Option String} : ns.getD "" = "" ↔ ns = none ∨ ns = some "" := by
  cases ns <;> simp

theorem eq_some_of_getD_ne_empty {ns : Option String} (h : ns.getD "" ≠ "") :
    ns = some (ns.getD "") := by
  cases ns with
  | none => exact absurd rfl h
  | some ns => rfl

/-- **Accepted** are exactly the usable workspaces. -/
theorem workload_eq_ok_iff : o.workload = .ok w ↔ Usable o w := by
  constructor
  · intro accepted
    cases found : Json.lookup "resource" o.members with
    | none =>
      rw [workload_of_absent found] at accepted
      cases accepted
    | some block =>
      rw [workload_of_lookup found] at accepted
      cases read : ResourceBlock.decode block with
      | error e =>
        rw [read] at accepted
        cases accepted
      | ok r =>
        rw [read] at accepted
        obtain ⟨v, valid, rfl⟩ := map_eq_ok_iff.1 accepted
        obtain ⟨named, count, visible, rfl⟩ := Workload.validate_eq_ok_iff.1 valid
        have usable := Usable.of found ((ResourceBlock.decode_finds block r).1 read)
          (eq_some_of_getD_ne_empty named) named count visible
        unfold Workload.withUid
        split
        · next uid owned => rwa [owned] at usable
        · next unowned => rwa [unowned] at usable
  · rintro ⟨found, means, inNamespace, named, count, visible⟩
    rw [workload_of_lookup found, (ResourceBlock.decode_finds _ _).2 means]
    dsimp only
    rw [inNamespace, Option.getD_some,
      Workload.validate_eq_ok_iff.2 ⟨named, count, visible, rfl⟩]
    unfold Workload.withUid
    cases o.metadata.uid <;> rfl

/-- **Refused** are all others, with the first fault that there is. -/
theorem workload_eq_error_iff : o.workload = .error e ↔ Refused o e := by
  constructor
  · intro refused
    cases found : Json.lookup "resource" o.members with
    | none =>
      rw [workload_of_absent found] at refused
      cases refused
      exact .noBlock found
    | some block =>
      rw [workload_of_lookup found] at refused
      cases read : ResourceBlock.decode block with
      | error cause =>
        rw [read] at refused
        cases refused
        exact .undecodable found (ResourceBlock.decode_finds.error_iff.1 ⟨cause, read⟩) read
      | ok r =>
        have means := (ResourceBlock.decode_finds block r).1 read
        rw [read] at refused
        rcases Workload.validate_eq_error_iff.1 (map_eq_error_iff.1 refused) with
          ⟨empty, rfl⟩ | ⟨named, zero, rfl⟩ | ⟨named, positive, blank, rfl⟩
        · exact .noNamespace found means (getD_ns_eq_empty_iff.1 empty)
        · exact .noNodes found means (eq_some_of_getD_ne_empty named) named zero
        · exact .blankType found means (eq_some_of_getD_ne_empty named) named positive blank
  · intro refused
    have failed {block : Json} {r : ResourceBlock}
        (found : Json.lookup "resource" o.members = some block)
        (means : ResourceBlock.meaning block r)
        (failed : Workload.validate o.metadata.anyName (o.metadata.ns.getD "") r = .error e) :
        o.workload = .error e := by
      rw [workload_of_lookup found, (ResourceBlock.decode_finds _ _).2 means]
      dsimp only
      rw [failed]
      rfl
    cases refused with
    | noBlock absent => exact workload_of_absent absent
    | undecodable found meaningless read => rw [workload_of_lookup found, read]
    | noNamespace found means ns =>
      exact failed found means
        (Workload.validate_eq_error_iff.2 (.inl ⟨getD_ns_eq_empty_iff.2 ns, rfl⟩))
    | noNodes found means inNamespace named count =>
      refine failed found means (Workload.validate_eq_error_iff.2 (.inr (.inl ⟨?_, count, rfl⟩)))
      rwa [inNamespace]
    | blankType found means inNamespace named count blank =>
      refine failed found means
        (Workload.validate_eq_error_iff.2 (.inr (.inr ⟨?_, count, blank, rfl⟩)))
      rwa [inNamespace]

/-- What is accepted is in a namespace, asks for a node at least, and names an instance type. -/
theorem Usable.sound (h : Usable o w) :
    w.ns ≠ "" ∧ 1 ≤ w.nodeCount ∧ ∃ c ∈ w.instanceType.toList, Text.isBlank c = false := by
  obtain ⟨-, -, -, named, count, visible⟩ := h
  exact ⟨named, Nat.pos_of_ne_zero (mt Workload.getD_count_eq_zero_iff.1 count), visible⟩

/-- A fault of validation names the workspace. -/
theorem Refused.name_eq {name detail : String} {field : Option String}
    (h : Refused o (.invalid name detail field)) : name = o.metadata.anyName := by
  cases h <;> rfl

/-- **Validation of a workspace.**  It is accepted exactly if it has a resource block that means
something, a namespace that is not empty, a count that is not zero, and an instance type with a
character that is not blank; its workload then has all of this as it is given, with one node where
no count is given and no labels where none are.  So the workload is namespaced, has a node, and its
instance type is not blank.  Any other workspace is refused for the first of these that it lacks,
in this order, and where its validation is at fault the workspace is named. -/
theorem workload_exact (o : WorkspaceObject) :
    (∀ w, o.workload = .ok w ↔ Usable o w) ∧
    (∀ w, o.workload = .ok w →
      w.ns ≠ "" ∧ 1 ≤ w.nodeCount ∧ ∃ c ∈ w.instanceType.toList, Text.isBlank c = false) ∧
    (∀ e, o.workload = .error e ↔ Refused o e) ∧
    ∀ name detail field, o.workload = .error (.invalid name detail field) →
      name = o.metadata.anyName :=
  ⟨fun _ => workload_eq_ok_iff, fun _ accepted => (workload_eq_ok_iff.1 accepted).sound,
    fun _ => workload_eq_error_iff, fun _ _ _ refused => (workload_eq_error_iff.1 refused).name_eq⟩

end WorkspaceObject

end NodeProvisioning
