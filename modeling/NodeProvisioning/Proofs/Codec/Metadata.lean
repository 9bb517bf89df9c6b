import NodeProvisioning.Metadata
import NodeProvisioning.Proofs.Codec.Basic

/-!
# Written conditions and metadata

Conditions and metadata are read as they were written. Texts, truth values and lists of them can all
be written. A moment must be one of the calendar, an integer must fit into 64 bits, and what a
manager has set is kept in canonical form and is not null, which would be read as absent.

## Main definitions

* `Condition.Valid`, `ManagedFields.Valid`, `Metadata.Valid` — what can be written

## Main statements

* `Condition.codec`, `Metadata.codec` — the written form is read back
-/

namespace NodeProvisioning

theorem Timestamp.codec : Codec Timestamp.decode Timestamp.encode Timestamp.Valid where
  reads t h := by
    rw [Timestamp.encode, Timestamp.decode, Timestamp.read_text h]
  yields v t h := by
    unfold Timestamp.decode at h
    split at h
    · split at h
      · next read =>
        cases h
        exact Timestamp.valid_of_read read
      · cases h
    · cases h
  nonnull _ _ := nofun

/-! ## Conditions -/

theorem ConditionStatus.codec :
    Codec ConditionStatus.decode (fun s => .str s.text) fun _ => True :=
  Codec.oneOf fun s => by cases s <;> rfl

namespace Condition

/-- A condition whose time, if it has one, is a moment of the calendar. -/
def Valid (c : Condition) : Prop := ∀ t ∈ c.lastTransitionTime, t.Valid

/-- The fields of a written condition. -/
def written (c : Condition) : List (String × Option Json) := [
  ("type", some (.str c.type)),
  ("status", some (.str c.status.text)),
  ("reason", (unlessDefault "" c.reason).map .str),
  ("message", (unlessDefault "" c.message).map .str),
  ("severity", c.severity.map .str),
  ("lastTransitionTime", c.lastTransitionTime.map Timestamp.encode)]

theorem encode_eq (c : Condition) : c.encode = .obj (Json.fields c.written) := by
  simp [encode, written]

theorem codec : Codec decode encode Valid where
  reads c valid := by
    have keys : (c.written.map (·.1)).Nodup := by simp [written]
    rw [encode_eq, decode, Json.record_fields _ _ keys, ok_bind,
      Timestamp.codec.nullable_bind c.lastTransitionTime keys valid,
      Codec.string.optional_bind (unlessDefault "" c.message) keys fun _ _ => trivial,
      Codec.string.optional_bind (unlessDefault "" c.reason) keys fun _ _ => trivial,
      Codec.string.nullable_bind c.severity keys fun _ _ => trivial,
      ConditionStatus.codec.optional_bind (some c.status) keys fun _ _ => trivial,
      Codec.string.optional_bind (some c.type) keys fun _ _ => trivial]
    · simp only [getD_unlessDefault, Fields.need_some, ok_bind]
      rfl
    all_goals simp [written]
  yields v c h := by
    simp only [decode, bind_eq_ok_iff] at h
    obtain ⟨fs, -, time, read, message, -, reason, -, severity, -, status, -, type, -, type', -,
      h⟩ := h
    cases h
    exact Timestamp.codec.of_nullable read
  nonnull _ _ := nofun

end Condition

/-! ## Owners and managers -/

namespace OwnerReference

/-- The fields of a written owner reference. -/
def written (r : OwnerReference) : List (String × Option Json) := [
  ("apiVersion", some (.str r.apiVersion)),
  ("blockOwnerDeletion", r.blockOwnerDeletion.map .bool),
  ("controller", r.controller.map .bool),
  ("kind", some (.str r.kind)),
  ("name", some (.str r.name)),
  ("uid", some (.str r.uid))]

theorem encode_eq (r : OwnerReference) : r.encode = .obj (Json.fields r.written) := by
  simp [encode, written]

theorem codec : Codec decode encode fun _ => True where
  reads r _ := by
    have keys : (r.written.map (·.1)).Nodup := by simp [written]
    rw [encode_eq, decode, Json.openRecord, ok_bind,
      Codec.string.nullable_bind (some r.apiVersion) keys fun _ _ => trivial,
      Codec.bool.nullable_bind r.blockOwnerDeletion keys fun _ _ => trivial,
      Codec.bool.nullable_bind r.controller keys fun _ _ => trivial,
      Codec.string.nullable_bind (some r.kind) keys fun _ _ => trivial,
      Codec.string.nullable_bind (some r.name) keys fun _ _ => trivial,
      Codec.string.nullable_bind (some r.uid) keys fun _ _ => trivial]
    · rfl
    all_goals simp [written]
  yields _ _ _ := trivial
  nonnull _ _ := nofun

end OwnerReference

namespace ManagedFields

/-- An entry whose fields are in canonical form and whose time is a moment of the calendar. -/
structure Valid (m : ManagedFields) : Prop where
  fieldsV1 : ∀ v ∈ m.fieldsV1, v.canonical = v ∧ v ≠ .null
  time : ∀ t ∈ m.time, t.Valid

/-- The fields of a written entry. -/
def written (m : ManagedFields) : List (String × Option Json) := [
  ("apiVersion", m.apiVersion.map .str),
  ("fieldsType", m.fieldsType.map .str),
  ("fieldsV1", m.fieldsV1.map id),
  ("manager", m.manager.map .str),
  ("operation", m.operation.map .str),
  ("subresource", m.subresource.map .str),
  ("time", m.time.map Timestamp.encode)]

theorem encode_eq (m : ManagedFields) : m.encode = .obj (Json.fields m.written) := by
  simp [encode, written]

theorem codec : Codec decode encode Valid where
  reads m valid := by
    have keys : (m.written.map (·.1)).Nodup := by simp [written]
    have fieldsV1 : Fields.nullable ⟨Json.fields m.written, .missingField⟩ "fieldsV1" .any =
        .ok m.fieldsV1 :=
      Fields.nullable_fields keys (by simp [written])
        (fun v mem => congrArg Except.ok (valid.fieldsV1 v mem).1)
        fun v mem => (valid.fieldsV1 v mem).2
    rw [encode_eq, decode, Json.openRecord, ok_bind,
      Codec.string.nullable_bind m.apiVersion keys fun _ _ => trivial,
      Codec.string.nullable_bind m.fieldsType keys fun _ _ => trivial, fieldsV1, ok_bind,
      Codec.string.nullable_bind m.manager keys fun _ _ => trivial,
      Codec.string.nullable_bind m.operation keys fun _ _ => trivial,
      Codec.string.nullable_bind m.subresource keys fun _ _ => trivial,
      Timestamp.codec.nullable_bind m.time keys valid.time]
    · rfl
    all_goals simp [written]
  yields v m h := by
    simp only [decode, bind_eq_ok_iff] at h
    obtain ⟨fs, -, apiVersion, -, fieldsType, -, fieldsV1, read, manager, -, operation, -,
      subresource, -, time, read', h⟩ := h
    cases h
    constructor
    · rintro v rfl
      obtain ⟨v', nonnull, h⟩ := Fields.exists_of_nullable read
      cases h
      exact ⟨v'.canonical_canonical, Json.canonical_ne_null nonnull⟩
    · exact Timestamp.codec.of_nullable read'
  nonnull _ _ := nofun

end ManagedFields

/-! ## Metadata -/

namespace Metadata

/-- Metadata whose moments are of the calendar, whose integers fit into 64 bits, and whose entries
about managers can be written. -/
structure Valid (m : Metadata) : Prop where
  creationTimestamp : ∀ t ∈ m.creationTimestamp, t.Valid
  deletionGracePeriodSeconds :
    ∀ n ∈ m.deletionGracePeriodSeconds, -(twoTo 63 : Nat) ≤ n ∧ n < (twoTo 63 : Nat)
  deletionTimestamp : ∀ t ∈ m.deletionTimestamp, t.Valid
  generation : ∀ n ∈ m.generation, -(twoTo 63 : Nat) ≤ n ∧ n < (twoTo 63 : Nat)
  managedFields : ∀ l ∈ m.managedFields, ∀ f ∈ l, f.Valid

/-- The fields of written metadata. -/
def written (m : Metadata) : List (String × Option Json) := [
  ("annotations", m.annotations.map Json.ofStringMap),
  ("creationTimestamp", m.creationTimestamp.map Timestamp.encode),
  ("deletionGracePeriodSeconds", m.deletionGracePeriodSeconds.map fun n => .num (.integer n)),
  ("deletionTimestamp", m.deletionTimestamp.map Timestamp.encode),
  ("finalizers", m.finalizers.map Json.strs),
  ("generateName", m.generateName.map .str),
  ("generation", m.generation.map fun n => .num (.integer n)),
  ("labels", m.labels.map Json.ofStringMap),
  ("managedFields", m.managedFields.map fun l => .arr (l.map ManagedFields.encode)),
  ("name", m.name.map .str),
  ("namespace", m.ns.map .str),
  ("ownerReferences", m.ownerReferences.map fun l => .arr (l.map OwnerReference.encode)),
  ("resourceVersion", m.resourceVersion.map .str),
  ("selfLink", m.selfLink.map .str),
  ("uid", m.uid.map .str)]

theorem encode_eq (m : Metadata) : m.encode = .obj (Json.fields m.written) := by
  simp [encode, written]

theorem codec : Codec decode encode Valid where
  reads m valid := by
    have keys : (m.written.map (·.1)).Nodup := by simp [written]
    rw [encode_eq, decode, Json.openRecord, ok_bind,
      Codec.stringMap.nullable_bind m.annotations keys fun _ _ => trivial,
      Timestamp.codec.nullable_bind m.creationTimestamp keys valid.creationTimestamp,
      Codec.int64.nullable_bind m.deletionGracePeriodSeconds keys
        valid.deletionGracePeriodSeconds,
      Timestamp.codec.nullable_bind m.deletionTimestamp keys valid.deletionTimestamp,
      Codec.strings.nullable_bind m.finalizers keys fun _ _ => trivial,
      Codec.string.nullable_bind m.generateName keys fun _ _ => trivial,
      Codec.int64.nullable_bind m.generation keys valid.generation,
      Codec.stringMap.nullable_bind m.labels keys fun _ _ => trivial,
      ManagedFields.codec.list.nullable_bind m.managedFields keys valid.managedFields,
      Codec.string.nullable_bind m.name keys fun _ _ => trivial,
      Codec.string.nullable_bind m.ns keys fun _ _ => trivial,
      OwnerReference.codec.list.nullable_bind m.ownerReferences keys fun _ _ _ _ => trivial,
      Codec.string.nullable_bind m.resourceVersion keys fun _ _ => trivial,
      Codec.string.nullable_bind m.selfLink keys fun _ _ => trivial,
      Codec.string.nullable_bind m.uid keys fun _ _ => trivial]
    · rfl
    all_goals simp [written]
  yields v m h := by
    simp only [decode, bind_eq_ok_iff] at h
    obtain ⟨fs, -, annotations, -, created, hcreated, grace, hgrace, deleted, hdeleted,
      finalizers, -, generateName, -, generation, hgeneration, labels, -, managed, hmanaged, name,
      -, ns, -, owners, -, resourceVersion, -, selfLink, -, uid, -, h⟩ := h
    cases h
    exact {
      creationTimestamp := Timestamp.codec.of_nullable hcreated
      deletionGracePeriodSeconds := Codec.int64.of_nullable hgrace
      deletionTimestamp := Timestamp.codec.of_nullable hdeleted
      generation := Codec.int64.of_nullable hgeneration
      managedFields := ManagedFields.codec.list.of_nullable hmanaged }
  nonnull _ _ := nofun

end Metadata

end NodeProvisioning
