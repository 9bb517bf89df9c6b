import NodeProvisioning.Command
import NodeProvisioning.Proofs.Codec.NodeClaim
import NodeProvisioning.Proofs.Yaml.Block

/-!
# Claims as documents

A stream of manifests determines its claims, all of them, in order and with all their fields: the
documents determine the values that were written, and a written claim is read back. It is asked of
the claims that they can be written at all, and that there are no fractions in what managers have
set, the one place in a claim where there could be any. The claims of a workload are such claims.

## Main definitions

* `NodeClaim.Writable` — a claim that its document determines

## Main statements

* `NodeClaim.Writable.isWhole_encode` — the written form of such a claim has no fractions
* `Workload.writable_claim` — the claims of a workload are such claims
* `ManifestRequest.stream_inj` — a stream of documents determines its claims
* `ManifestRequest.stream_eq_iff` — only the claims of a workload are written as they are
-/

namespace NodeProvisioning

/-! ## Values without fractions -/

namespace Json

theorem isWhole_fields {l : List (String × Option Json)}
    (whole : ∀ f ∈ l, ∀ v ∈ f.2, v.IsWhole) : (obj (fields l)).IsWhole := by
  refine .obj fun m mem => ?_
  obtain ⟨f, there, eq⟩ := List.mem_filterMap.1 mem
  obtain ⟨v, found, rfl⟩ := Option.map_eq_some_iff.1 eq
  exact whole f there v found

@[simp] theorem isWhole_str (s : String) : (str s).IsWhole := .str s

@[simp] theorem isWhole_strs (l : List String) : (strs l).IsWhole := by
  simp [strs, isWhole_arr_iff]

@[simp] theorem isWhole_ofStringMap (m : SortedMap String String) : (ofStringMap m).IsWhole := by
  refine .obj fun e mem => ?_
  obtain ⟨e, -, rfl⟩ := List.mem_map.1 mem
  exact .str _

@[simp] theorem isWhole_arr_map {α : Type} {encode : α → Json} {l : List α} :
    (arr (l.map encode)).IsWhole ↔ ∀ a ∈ l, (encode a).IsWhole := by
  simp [isWhole_arr_iff]

/-- An integer of 64 bits with a sign. -/
theorem isWhole_int64 {n : Int} (fits : -(twoTo 63 : Nat) ≤ n ∧ n < (twoTo 63 : Nat)) :
    (num (.integer n)).IsWhole := by
  have size : twoTo 64 = twoTo 63 * 2 := twoTo_succ 63
  exact .integer (by omega)

end Json

@[simp] theorem Timestamp.isWhole_encode (t : Timestamp) : t.encode.IsWhole := .str _

@[simp] theorem Condition.isWhole_encode (c : Condition) : c.encode.IsWhole := by
  rw [encode_eq]
  exact Json.isWhole_fields (by simp [written])

@[simp] theorem OwnerReference.isWhole_encode (r : OwnerReference) : r.encode.IsWhole := by
  have flag (o : Option Bool) : ∀ v ∈ o.map Json.bool, v.IsWhole := by
    intro v mem
    obtain ⟨b, -, rfl⟩ := Option.map_eq_some_iff.1 mem
    exact .bool b
  rw [encode_eq]
  refine Json.isWhole_fields ?_
  simp only [written, List.forall_mem_cons]
  exact ⟨by simp, flag _, flag _, by simp, by simp, by simp, by simp⟩

/-- What a manager has set has fractions only where that itself has. -/
theorem ManagedFields.isWhole_encode {m : ManagedFields}
    (whole : ∀ v ∈ m.fieldsV1, v.IsWhole) : m.encode.IsWhole := by
  rw [encode_eq]
  exact Json.isWhole_fields (by simpa [written] using whole)

theorem Metadata.isWhole_encode {m : Metadata} (valid : m.Valid)
    (whole : ∀ l ∈ m.managedFields, ∀ f ∈ l, ∀ v ∈ f.fieldsV1, v.IsWhole) : m.encode.IsWhole := by
  have managed : ∀ l ∈ m.managedFields, ∀ f ∈ l, f.encode.IsWhole :=
    fun l mem f mem' => ManagedFields.isWhole_encode (whole l mem f mem')
  have grace := fun n mem => Json.isWhole_int64 (valid.deletionGracePeriodSeconds n mem)
  have generation := fun n mem => Json.isWhole_int64 (valid.generation n mem)
  rw [encode_eq]
  refine Json.isWhole_fields ?_
  simpa [written] using ⟨grace, generation, managed⟩

namespace NodeClaim

@[simp] theorem Requirement.isWhole_encode (r : Requirement) : r.encode.IsWhole := by
  rw [encode_eq]
  exact Json.isWhole_fields (by simp [written])

@[simp] theorem Taint.isWhole_encode (t : Taint) : t.encode.IsWhole := by
  rw [encode_eq]
  exact Json.isWhole_fields (by simp [written])

@[simp] theorem ClassReference.isWhole_encode (r : ClassReference) : r.encode.IsWhole := by
  rw [encode_eq]
  exact Json.isWhole_fields (by simp [written])

@[simp] theorem isWhole_encodeRequests (m : Labels) : (encodeRequests m).IsWhole := by
  simp [encodeRequests, Json.isWhole_obj_iff]

@[simp] theorem Spec.isWhole_encode (s : Spec) : s.encode.IsWhole := by
  rw [encode_eq]
  exact Json.isWhole_fields (by simp [written])

@[simp] theorem Status.isWhole_encode (s : Status) : s.encode.IsWhole := by
  rw [encode_eq]
  exact Json.isWhole_fields (by simp [written])

/-! ## Claims -/

/-- **A claim that its document determines**: it can be written, and nothing that a manager has set
is a fraction. -/
structure Writable (c : NodeClaim) : Prop where
  valid : c.Valid
  managed : ∀ l ∈ c.metadata.managedFields, ∀ f ∈ l, ∀ v ∈ f.fieldsV1, v.IsWhole

theorem Writable.isWhole_encode {c : NodeClaim} (h : c.Writable) : c.encode.IsWhole := by
  have metadata := Metadata.isWhole_encode h.valid.metadata h.managed
  rw [encode_eq]
  exact Json.isWhole_fields (by simp [written, metadata])

/-- Such claims are read as they were written. -/
theorem map_decode_encode {l : List NodeClaim} (writable : ∀ c ∈ l, c.Writable) :
    (l.map encode).map decode = l.map Except.ok := by
  rw [List.map_map]
  exact List.map_congr_left fun c mem => codec.reads c (writable c mem).valid

end NodeClaim

/-- The claims of a workload have no status, and no manager has set anything yet. -/
theorem Workload.writable_claim (w : Workload) (options : ManifestOptions) (index : String) :
    (w.claim options index).Writable where
  valid := ⟨⟨nofun, nofun, nofun, nofun, nofun⟩, nofun⟩
  managed := nofun

theorem Workload.writable_of_mem_claims {w : Workload} {options : ManifestOptions} {c : NodeClaim}
    (mem : c ∈ w.claims options) : c.Writable := by
  obtain ⟨i, -, rfl⟩ := List.mem_map.1 mem
  exact w.writable_claim options _

namespace ManifestRequest

/-- **A stream of documents determines its claims**, in order and with all their fields. -/
theorem stream_inj {l l' : List NodeClaim} (writable : ∀ c ∈ l, c.Writable)
    (writable' : ∀ c ∈ l', c.Writable)
    (same : String.join (l.map document) = String.join (l'.map document)) : l = l' := by
  have stream (l : List NodeClaim) : l.map document =
      (l.map NodeClaim.encode).map fun v => "---\n" ++ Yaml.write v := by
    rw [List.map_map]
    rfl
  have whole {l : List NodeClaim} (writable : ∀ c ∈ l, c.Writable) :
      ∀ v ∈ l.map NodeClaim.encode, v.IsWhole :=
    List.forall_mem_map.2 fun c mem => (writable c mem).isWhole_encode
  rw [stream, stream] at same
  have written := Yaml.stream_inj (whole writable) (whole writable') same
  have read := NodeClaim.map_decode_encode writable
  rw [written, NodeClaim.map_decode_encode writable'] at read
  exact (List.map_injective_iff.2 (fun _ _ => Except.ok.inj) read).symm

/-- **Only the claims of a workload** are written as they are. -/
theorem stream_eq_iff {w : Workload} {options : ManifestOptions} {claims : List NodeClaim}
    (writable : ∀ c ∈ claims, c.Writable) :
    String.join ((w.claims options).map document) = String.join (claims.map document) ↔
      claims = w.claims options := by
  constructor
  · intro same
    exact (stream_inj (fun c => Workload.writable_of_mem_claims) writable same).symm
  · rintro rfl
    rfl

end ManifestRequest

end NodeProvisioning
