import NodeProvisioning.NodeClaim.Codec
import NodeProvisioning.NodeClaim.State
import NodeProvisioning.Proofs.Codec.Metadata
import NodeProvisioning.Workload

/-!
# Written node claims

A node claim, a condition and the resource block of a workspace are read as they were written,
whatever of them is absent, empty or there: what is left out has the value that its absence stands
for. A requests block without requests, a status without conditions and empty labels are written, so
that they do not come back as absent.

What cannot be written is no value of the wire: `NodeClaim.Valid` asks for moments of the calendar,
integers of 64 bits and canonical contents of managed fields, and all that is ever decoded has these
properties. So a value that was decoded once survives from then on.

## Main definitions

* `NodeClaim.Valid`, `ResourceBlock.Valid` — what can be written

## Main statements

* `NodeClaim.codec`, `ResourceBlock.codec` — the written form is read back
* `NodeClaim.written_form_lossless` — nothing is lost, by claims and by what was decoded
-/

namespace NodeProvisioning

namespace NodeClaim

/-! ## Parts of a spec -/

theorem Operator.codec : Codec (.oneOf names) (fun o => .str o.text) fun _ => True :=
  Codec.oneOf fun o => by cases o <;> rfl

theorem TaintEffect.codec : Codec (.oneOf names) (fun e => .str e.text) fun _ => True :=
  Codec.oneOf fun e => by cases e <;> rfl

namespace Requirement

/-- The fields of a written requirement. -/
def written (r : Requirement) : List (String × Option Json) := [
  ("key", some (.str r.key)),
  ("operator", some (.str r.operator.text)),
  ("values", (unlessDefault [] r.values).map fun l => .arr (l.map .str))]

theorem encode_eq (r : Requirement) : r.encode = .obj (Json.fields r.written) := by
  simp [encode, written]

theorem codec : Codec decode encode fun _ => True where
  reads r _ := by
    have keys : (r.written.map (·.1)).Nodup := by simp [written]
    rw [encode_eq, decode, Json.record_fields _ _ keys, ok_bind,
      Codec.string.optional_bind (some r.key) keys fun _ _ => trivial,
      Operator.codec.optional_bind (some r.operator) keys fun _ _ => trivial,
      Codec.string.list.optional_bind (unlessDefault [] r.values) keys fun _ _ _ _ => trivial]
    · simp only [getD_unlessDefault, Fields.need_some, ok_bind]
      rfl
    all_goals simp [written]
  yields _ _ _ := trivial
  nonnull _ _ := nofun

end Requirement

namespace Taint

/-- The fields of a written taint. -/
def written (t : Taint) : List (String × Option Json) := [
  ("key", some (.str t.key)),
  ("value", t.value.map .str),
  ("effect", some (.str t.effect.text))]

theorem encode_eq (t : Taint) : t.encode = .obj (Json.fields t.written) := by
  simp [encode, written]

theorem codec : Codec decode encode fun _ => True where
  reads t _ := by
    have keys : (t.written.map (·.1)).Nodup := by simp [written]
    rw [encode_eq, decode, Json.record_fields _ _ keys, ok_bind,
      TaintEffect.codec.optional_bind (some t.effect) keys fun _ _ => trivial,
      Codec.string.optional_bind (some t.key) keys fun _ _ => trivial,
      Codec.string.nullable_bind t.value keys fun _ _ => trivial]
    · rfl
    all_goals simp [written]
  yields _ _ _ := trivial
  nonnull _ _ := nofun

end Taint

namespace ClassReference

/-- The fields of a written reference to a class of nodes. -/
def written (r : ClassReference) : List (String × Option Json) := [
  ("apiVersion", r.apiVersion.map .str),
  ("kind", some (.str r.kind)),
  ("name", some (.str r.name))]

theorem encode_eq (r : ClassReference) : r.encode = .obj (Json.fields r.written) := by
  simp [encode, written]

theorem codec : Codec decode encode fun _ => True where
  reads r _ := by
    have keys : (r.written.map (·.1)).Nodup := by simp [written]
    rw [encode_eq, decode, Json.record_fields _ _ keys, ok_bind,
      Codec.string.nullable_bind r.apiVersion keys fun _ _ => trivial,
      Codec.string.optional_bind (some r.kind) keys fun _ _ => trivial,
      Codec.string.optional_bind (some r.name) keys fun _ _ => trivial]
    · rfl
    all_goals simp [written]
  yields _ _ _ := trivial
  nonnull _ _ := nofun

end ClassReference

theorem requests_codec : Codec decodeRequests encodeRequests fun _ => True where
  reads m _ := by
    show decodeRequests (.obj (Json.fields [("requests", some (.ofStringMap m))])) = _
    rw [decodeRequests, Json.record_fields _ _ (by simp), ok_bind,
      Codec.stringMap.optional_bind (some m) (by simp) fun _ _ => trivial]
    · rfl
    · simp
  yields _ _ _ := trivial
  nonnull _ _ := nofun

/-! ## Spec and status -/

namespace Spec

/-- The fields of a written spec. -/
def written (s : Spec) : List (String × Option Json) := [
  ("requirements", some (.arr (s.requirements.map Requirement.encode))),
  ("resources", s.requests.map encodeRequests),
  ("taints", (unlessDefault [] s.taints).map fun l => .arr (l.map Taint.encode)),
  ("nodeClassRef", s.classRef.map ClassReference.encode)]

theorem encode_eq (s : Spec) : s.encode = .obj (Json.fields s.written) := by
  simp [encode, written]

theorem codec : Codec decode encode fun _ => True where
  reads s _ := by
    have keys : (s.written.map (·.1)).Nodup := by simp [written]
    rw [encode_eq, decode, Json.record_fields _ _ keys, ok_bind,
      ClassReference.codec.nullable_bind s.classRef keys fun _ _ => trivial,
      Requirement.codec.list.optional_bind (some s.requirements) keys fun _ _ _ _ => trivial,
      requests_codec.nullable_bind s.requests keys fun _ _ => trivial,
      Taint.codec.list.optional_bind (unlessDefault [] s.taints) keys fun _ _ _ _ => trivial]
    · simp only [getD_unlessDefault]
      rfl
    all_goals simp [written]
  yields _ _ _ := trivial
  nonnull _ _ := nofun

end Spec

namespace Status

/-- A status whose conditions can be written. -/
def Valid (s : Status) : Prop := ∀ c ∈ s.conditions, c.Valid

/-- The fields of a written status. -/
def written (s : Status) : List (String × Option Json) := [
  ("nodeName", s.nodeName.map .str),
  ("providerID", s.providerID.map .str),
  ("conditions", (unlessDefault [] s.conditions).map fun l => .arr (l.map Condition.encode))]

theorem encode_eq (s : Status) : s.encode = .obj (Json.fields s.written) := by
  simp [encode, written]

theorem codec : Codec decode encode Valid where
  reads s valid := by
    have keys : (s.written.map (·.1)).Nodup := by simp [written]
    have conditions : ∀ l ∈ unlessDefault [] s.conditions, ∀ c ∈ l, c.Valid := by
      intro l mem
      rw [of_mem_unlessDefault mem]
      exact valid
    rw [encode_eq, decode, Json.record_fields _ _ keys, ok_bind,
      Condition.codec.list.optional_bind (unlessDefault [] s.conditions) keys conditions,
      Codec.string.nullable_bind s.nodeName keys fun _ _ => trivial,
      Codec.string.nullable_bind s.providerID keys fun _ _ => trivial]
    · simp only [getD_unlessDefault]
      rfl
    all_goals simp [written]
  yields v s h := by
    simp only [decode, bind_eq_ok_iff] at h
    obtain ⟨fs, -, conditions, read, nodeName, -, providerID, -, h⟩ := h
    cases h
    cases conditions with
    | none => exact fun _ mem => nomatch mem
    | some l => exact Condition.codec.list.of_optional read l rfl
  nonnull _ _ := nofun

end Status

/-! ## Claims -/

/-- A claim whose metadata and status can be written. -/
structure Valid (c : NodeClaim) : Prop where
  metadata : c.metadata.Valid
  status : ∀ s ∈ c.status, s.Valid

/-- The fields of a written claim. -/
def written (c : NodeClaim) : List (String × Option Json) := [
  ("apiVersion", some (.str apiVersion)),
  ("kind", some (.str kindName)),
  ("metadata", some c.metadata.encode),
  ("spec", some c.spec.encode),
  ("status", c.status.map Status.encode)]

theorem encode_eq (c : NodeClaim) : c.encode = .obj (Json.fields c.written) := by
  simp [encode, written]

/-- A written node claim is read back. -/
theorem codec : Codec decode encode Valid where
  reads c valid := by
    have keys : (c.written.map (·.1)).Nodup := by simp [written]
    rw [encode_eq, decode, Json.record_fields _ _ keys, ok_bind,
      Metadata.codec.optional_bind (some c.metadata) keys (by simpa using valid.metadata),
      Spec.codec.optional_bind (some c.spec) keys fun _ _ => trivial,
      Status.codec.nullable_bind c.status keys valid.status]
    · rfl
    all_goals simp [written]
  yields v c h := by
    simp only [decode, bind_eq_ok_iff] at h
    obtain ⟨fs, -, metadata, hmetadata, spec, -, status, hstatus, metadata', needed, spec', -,
      h⟩ := h
    cases h
    constructor
    · cases metadata with
      | none => cases needed
      | some _ =>
        cases needed
        exact Metadata.codec.of_optional hmetadata _ rfl
    · exact Status.codec.of_nullable hstatus
  nonnull _ _ := nofun

end NodeClaim

/-! ## Resource blocks -/

namespace LabelExpression

/-- The fields of a written condition on one label. -/
def written (e : LabelExpression) : List (String × Option Json) := [
  ("key", some (.str e.key)),
  ("operator", some (.str e.operator)),
  ("values", e.values.map Json.strs)]

theorem encode_eq (e : LabelExpression) : e.encode = .obj (Json.fields e.written) := by
  simp [encode, written]

theorem codec : Codec decode encode fun _ => True where
  reads e _ := by
    have keys : (e.written.map (·.1)).Nodup := by simp [written]
    rw [encode_eq, decode, Json.openRecord, ok_bind,
      Codec.string.nullable_bind (some e.key) keys fun _ _ => trivial,
      Codec.string.nullable_bind (some e.operator) keys fun _ _ => trivial,
      Codec.strings.nullable_bind e.values keys fun _ _ => trivial]
    · rfl
    all_goals simp [written]
  yields _ _ _ := trivial
  nonnull _ _ := nofun

end LabelExpression

namespace LabelSelector

/-- The fields of a written label selector. -/
def written (s : LabelSelector) : List (String × Option Json) := [
  ("matchExpressions", s.matchExpressions.map fun l => .arr (l.map LabelExpression.encode)),
  ("matchLabels", s.matchLabels.map Json.ofStringMap)]

theorem encode_eq (s : LabelSelector) : s.encode = .obj (Json.fields s.written) := by
  simp [encode, written]

theorem codec : Codec decode encode fun _ => True where
  reads s _ := by
    have keys : (s.written.map (·.1)).Nodup := by simp [written]
    rw [encode_eq, decode, Json.openRecord, ok_bind,
      LabelExpression.codec.list.nullable_bind s.matchExpressions keys fun _ _ _ _ => trivial,
      Codec.stringMap.nullable_bind s.matchLabels keys fun _ _ => trivial]
    · rfl
    all_goals simp [written]
  yields _ _ _ := trivial
  nonnull _ _ := nofun

end LabelSelector

namespace ResourceBlock

/-- A resource block whose node count, if it has one, fits into 32 bits. -/
def Valid (r : ResourceBlock) : Prop := ∀ n ∈ r.count, n < twoTo 32

/-- The fields of a written resource block. -/
def written (r : ResourceBlock) : List (String × Option Json) := [
  ("count", r.count.map Json.nat),
  ("instanceType", some (.str r.instanceType)),
  ("labelSelector", r.labelSelector.map LabelSelector.encode)]

theorem encode_eq (r : ResourceBlock) : r.encode = .obj (Json.fields r.written) := by
  simp [encode, written]

/-- A written resource block is read back. -/
theorem codec : Codec decode encode Valid where
  reads r valid := by
    have keys : (r.written.map (·.1)).Nodup := by simp [written]
    rw [encode_eq, decode, Json.record_fields _ _ keys, ok_bind,
      (Codec.natural 32).nullable_bind r.count keys valid,
      Codec.string.optional_bind (some r.instanceType) keys fun _ _ => trivial,
      LabelSelector.codec.nullable_bind r.labelSelector keys fun _ _ => trivial]
    · rfl
    all_goals simp [written]
  yields v r h := by
    simp only [decode, bind_eq_ok_iff] at h
    obtain ⟨fs, -, count, read, instanceType, -, labelSelector, -, h⟩ := h
    cases h
    exact (Codec.natural 32).of_nullable read
  nonnull _ _ := nofun

end ResourceBlock

/-! ## The wire -/

namespace NodeClaim

/-- A claim can be written if its metadata and the times of its conditions survive being written. -/
theorem valid_of_survives {c : NodeClaim}
    (metadata : Metadata.decode c.metadata.encode = .ok c.metadata)
    (times : ∀ condition ∈ c.conditions, ∀ t ∈ condition.lastTransitionTime,
      Timestamp.read t.text = .ok t) : c.Valid where
  metadata := Metadata.codec.yields _ _ metadata
  status := by
    intro s mem condition mem' t mem''
    have reported : condition ∈ c.conditions := by
      rw [conditions, show c.status = some s from mem]
      exact mem'
    exact Timestamp.valid_of_read (times condition reported t mem'')

/-- **The written form loses nothing** beyond what the written forms of metadata and moments lose. A
claim is read as it was written if its metadata and the times of its conditions are, a condition if
its time is, and a resource block if its count fits into 32 bits. Valid metadata and moments are
read as they were written; and since only such are ever read, a claim that was read, from whatever
value, can be written and read again and is the same claim in the same state, and likewise a
condition and a resource block. -/
theorem written_form_lossless :
    (∀ c : NodeClaim, Metadata.decode c.metadata.encode = .ok c.metadata →
      (∀ condition ∈ c.conditions, ∀ t ∈ condition.lastTransitionTime,
        Timestamp.read t.text = .ok t) →
      decode c.encode = .ok c) ∧
    (∀ c : Condition, (∀ t ∈ c.lastTransitionTime, Timestamp.read t.text = .ok t) →
      Condition.decode c.encode = .ok c) ∧
    (∀ r : ResourceBlock, (∀ n ∈ r.count, n < twoTo 32) →
      ResourceBlock.decode r.encode = .ok r) ∧
    (∀ m : Metadata, m.Valid → Metadata.decode m.encode = .ok m) ∧
    (∀ t : Timestamp, t.Valid → Timestamp.read t.text = .ok t) ∧
    (∀ v c, decode v = .ok c →
      ∃ c', decode c.encode = .ok c' ∧ c' = c ∧ c'.state = c.state) ∧
    (∀ v c, Condition.decode v = .ok c → Condition.decode c.encode = .ok c) ∧
    (∀ v r, ResourceBlock.decode v = .ok r → ResourceBlock.decode r.encode = .ok r) := by
  refine ⟨?_, ?_, ResourceBlock.codec.reads, Metadata.codec.reads, fun t => Timestamp.read_text,
    ?_, ?_, ?_⟩
  · intro c metadata times
    exact codec.reads c (valid_of_survives metadata times)
  · intro c time
    exact Condition.codec.reads c fun t mem => Timestamp.valid_of_read (time t mem)
  · intro v c read
    exact ⟨c, codec.again read, rfl, rfl⟩
  · intro v c read
    exact Condition.codec.again read
  · intro v r read
    exact ResourceBlock.codec.again read

/-- A condition that was reported in a leap second. -/
def lateCondition : Condition :=
  ⟨"Launched", .unknown, "", "", some "", some ⟨1483228799, 1500000000⟩⟩

/-- A claim with empty texts, lists and maps, and a block of requests without a request. -/
def sparseClaim : NodeClaim where
  metadata := {
    name := some "", labels := some ∅, finalizers := some [], generation := some (-1)
    creationTimestamp := some ⟨-62167219201, 0⟩
    managedFields := some [⟨none, none, some (.obj [("f:spec", .null)]), none, none, none, none⟩] }
  spec := { requests := some ∅, taints := [⟨"sku", some "", .noSchedule⟩] }
  status := some { conditions := [lateCondition] }

/-- The least object that is a claim. -/
def bareObject : Json := .obj [("metadata", .obj []), ("spec", .obj [])]

theorem sparseClaim_valid : sparseClaim.metadata.Valid := by
  refine ⟨?_, nofun, nofun, ?_, ?_⟩
  · intro t mem
    cases mem
    exact ⟨by decide, by decide, by decide, by decide⟩
  · intro n mem
    cases mem
    decide
  · intro l mem f mem'
    cases mem
    rw [List.mem_singleton.1 mem']
    refine ⟨?_, nofun⟩
    intro v mem
    cases mem
    exact ⟨rfl, nofun⟩

/-- The claim survives, since its metadata and the leap second do, and so do its condition, a
resource block without nodes, and what the least object names. -/
theorem sparseClaim_lossless :
    Metadata.decode sparseClaim.metadata.encode = .ok sparseClaim.metadata ∧
    decode sparseClaim.encode = .ok sparseClaim ∧
    (∀ t ∈ lateCondition.lastTransitionTime, Timestamp.read t.text = .ok t) ∧
    Condition.decode lateCondition.encode = .ok lateCondition ∧
    ResourceBlock.decode (ResourceBlock.encode { count := some 0 }) = .ok { count := some 0 } ∧
    decode bareObject = .ok ⟨{}, {}, none⟩ ∧
    ∃ c, decode (encode ⟨{}, {}, none⟩) = .ok c ∧ c = ⟨{}, {}, none⟩ ∧ c.state = .pending := by
  obtain ⟨claim, condition, block, metadata, moment, again, -, -⟩ := written_form_lossless
  have late : ∀ t ∈ lateCondition.lastTransitionTime, Timestamp.read t.text = .ok t := by
    intro t mem
    cases mem
    exact moment _ ⟨by decide, by decide, by decide, by decide⟩
  have bare : decode bareObject = .ok ⟨{}, {}, none⟩ := rfl
  have survives := metadata _ sparseClaim_valid
  refine ⟨survives, claim _ survives ?_, late, condition _ late, block _ ?_, bare, again _ _ bare⟩
  · intro c mem
    rw [List.mem_singleton.1 (show c ∈ [lateCondition] from mem)]
    exact late
  · intro n mem
    cases mem
    decide

end NodeClaim

end NodeProvisioning
