import NodeProvisioning.Proofs.Codec.Document
import NodeProvisioning.Proofs.Provisioning.Course

/-!
# Rendering without a cluster

Manifests that are rendered from the options of a command line are those of the claims that a run
would create for the workspace that these options describe. Options and workspace come to a workload
on two ways. The workspace is read: its resource block is decoded, and validated together with its
labels. The options are validated without labels, which are set afterwards. Both ways end at one
workload or at one error, since validation looks at namespace, count and instance type only, which
decoding leaves alone. The text that is rendered stands for the claims of that workload and for no
others, since a stream of documents determines its claims.

## Main definitions

* `ManifestRequest.Describes` — a workspace with the name, owner and resource block of a request
* `ManifestRequest.workspace` — the one that has nothing else

## Main statements

* `ManifestRequest.Describes.workload_eq` — both ways end alike
* `ManifestRequest.render_agrees` — what is rendered is what is created
-/

namespace NodeProvisioning

namespace ManifestRequest

/-- The resource block of a request: of equal labels the last one counts. -/
def resource (r : ManifestRequest) : ResourceBlock where
  count := some r.count
  instanceType := r.instanceType
  labelSelector := some { matchLabels := some (SortedMap.ofList r.labels) }

/-- **A workspace that a request describes.** It may have other members, and other metadata. -/
structure Describes (r : ManifestRequest) (object : WorkspaceObject) : Prop where
  name : object.metadata.name = some r.target.workspace
  ns : object.metadata.ns = some r.target.ns
  uid : object.metadata.uid = r.uid
  /-- Its resource block reads as that of the request. -/
  block : ∃ block, Json.lookup "resource" object.members = some block ∧
    ResourceBlock.decode block = .ok r.resource

/-- The workspace of a request, with nothing that the request does not say. -/
def workspace (r : ManifestRequest) : WorkspaceObject where
  metadata := { name := some r.target.workspace, ns := some r.target.ns, uid := r.uid }
  members := [("resource", r.resource.encode)]

/-- A request whose count fits into 32 bits describes its workspace. -/
theorem describes_workspace {r : ManifestRequest} (fits : r.count < twoTo 32) :
    r.Describes r.workspace where
  name := rfl
  ns := rfl
  uid := rfl
  block := by
    have valid : r.resource.Valid := by
      intro n mem
      cases mem
      exact fits
    exact ⟨r.resource.encode, rfl, ResourceBlock.codec.reads _ valid⟩

/-! ## The workload -/

/-- Validation does not look at labels, and takes them over as they are. -/
theorem validate_labels (name ns : String) (resource : ResourceBlock) :
    Workload.validate name ns resource =
      (Workload.validate name ns { resource with labelSelector := none }).map fun w =>
        { w with labelSelector := resource.labels } := by
  unfold Workload.validate
  by_cases hns : ns = ""
  · rw [if_pos hns, if_pos hns]
    rfl
  · by_cases hcount : resource.count.getD 1 = 0
    · rw [if_neg hns, if_neg hns, if_pos hcount, if_pos hcount]
      rfl
    · by_cases htype : Text.trim resource.instanceType = ""
      · rw [if_neg hns, if_neg hns, if_neg hcount, if_neg hcount, if_pos htype, if_pos htype]
        rfl
      · rw [if_neg hns, if_neg hns, if_neg hcount, if_neg hcount, if_neg htype, if_neg htype]
        rfl

/-- What was validated has no owner yet. -/
theorem uid_of_validate {name ns : String} {resource : ResourceBlock} {w : Workload}
    (h : Workload.validate name ns resource = .ok w) : w.uid = none := by
  unfold Workload.validate at h
  dsimp only at h
  split at h
  · cases h
  · split at h
    · cases h
    · split at h
      · cases h
      · cases h
        rfl

theorem withUid_eq {w : Workload} (h : w.uid = none) (uid : Option String) :
    w.withUid uid = { w with uid } := by
  cases uid with
  | none =>
    cases w
    cases h
    rfl
  | some uid => rfl

section Rendering

variable {r : ManifestRequest} {object : WorkspaceObject}

/-- **The workload of a workspace that a request describes** is that of the request, and so is the
error where there is none. -/
theorem Describes.workload_eq (h : r.Describes object) : object.workload = r.workload := by
  obtain ⟨block, found, read⟩ := h.block
  have name : object.metadata.anyName = r.target.workspace := by
    rw [Metadata.anyName, h.name]
    rfl
  rw [WorkspaceObject.workload, found]
  dsimp only
  rw [read]
  dsimp only
  rw [name, h.ns, h.uid, Option.getD_some, validate_labels, workload]
  show (do
    let w ← (Workload.validate r.target.workspace r.target.ns
      { count := some r.count, instanceType := r.instanceType }).map _
    return Workload.withUid w r.uid) = _
  cases validated : Workload.validate r.target.workspace r.target.ns
    { count := some r.count, instanceType := r.instanceType } with
  | error e => rfl
  | ok w =>
    have unowned : w.uid = none := uid_of_validate validated
    exact congrArg Except.ok
      (withUid_eq (w := { w with labelSelector := r.resource.labels }) unowned r.uid)

/-! ## The manifests -/

/-- Rendering fails only where there is no workload. -/
theorem render_eq (r : ManifestRequest) (options : ManifestOptions) :
    r.render options = r.workload.map fun w => String.join ((w.claims options).map document) := by
  unfold render
  cases r.workload <;> rfl

end Rendering

/-! ## Rendering and running -/

section Running

open History Provisioning

/-- **What is rendered is what is created.** A request describes a workspace; rendering the request
succeeds exactly where any workspace that it describes has a workload, and fails with the same error
otherwise. What is rendered are the claims of that workload, in order, and no other claims that can
be written are rendered as this text; and a run on the workload with the same options, whatever the
cluster answers, creates claims from the first of these on and no others, and all of them if it gets
through its submission, as it does when it succeeds. -/
theorem render_agrees (r : ManifestRequest) (options : ManifestOptions)
    (fits : r.count < twoTo 32) :
    r.Describes r.workspace ∧ ∀ object, r.Describes object →
      ((∃ text, r.render options = .ok text) ↔ ∃ w, object.workload = .ok w) ∧
      (∀ e, r.render options = .error e ↔ object.workload = .error e) ∧
      ∀ w, object.workload = .ok w →
        r.render options = .ok (String.join ((w.claims options).map document)) ∧
        (∀ c ∈ w.claims options, c.Writable) ∧
        (∀ claims : List NodeClaim, (∀ c ∈ claims, c.Writable) →
          (r.render options = .ok (String.join (claims.map document)) ↔
            claims = w.claims options)) ∧
        ∀ (σ : Type) (b : Backend σ) (config : RunConfig) (signals : Signals) (now : Instant)
          (state : σ), config.manifest = options →
          let run := provision b config signals w (.start now state)
          creations run.2.history <+: w.claims options ∧
          ((∃ deadline, (submission b config signals w (.start now state)).1 = .ok deadline) →
            creations run.2.history = w.claims options) ∧
          (run.1 = .ok () → creations run.2.history = w.claims options) := by
  refine ⟨describes_workspace fits, fun object h => ?_⟩
  rw [render_eq, ← h.workload_eq]
  refine ⟨?_, ?_, ?_⟩
  · cases object.workload <;> simp [Except.map]
  · cases object.workload <;> simp [Except.map]
  · intro w found
    refine ⟨by rw [found]; rfl, fun c => Workload.writable_of_mem_claims, ?_, ?_⟩
    · intro claims writable
      rw [found, Except.map, Except.ok.injEq]
      exact stream_eq_iff writable
    · rintro σ b config signals now state rfl run
      refine ⟨provision_creations_isPrefix, ?_, ?_⟩
      · rintro ⟨deadline, through⟩
        exact creations_of_submission through
      · intro success
        obtain ⟨deadline, through⟩ := submission_of_provision success
        exact creations_of_submission through

/-- Two nodes with a label that is given twice. -/
def labelledTwice : ManifestRequest where
  target := ⟨"falcon", "kaito"⟩
  instanceType := "Standard_NC12s_v3"
  count := 2
  labels := [("apps", "first"), ("apps", "falcon")]
  uid := some "uid"

/-- The workload of that workspace: the label that was given last counts. -/
def twoLabelled : Workload :=
  ⟨"falcon", "kaito", some "uid", 2, "Standard_NC12s_v3", SortedMap.ofList [("apps", "falcon")]⟩

/-- Both claims of the request are rendered, and no others as this text; and both are created where
nothing is yet. -/
theorem labelledTwice_agrees :
    labelledTwice.count < twoTo 32 ∧ labelledTwice.Describes labelledTwice.workspace ∧
      labelledTwice.workspace.workload = .ok twoLabelled ∧
      labelledTwice.render {} = .ok (String.join ((twoLabelled.claims {}).map document)) ∧
      (∀ c ∈ twoLabelled.claims {}, c.Writable) ∧
      (∀ claims : List NodeClaim, (∀ c ∈ claims, c.Writable) →
        (labelledTwice.render {} = .ok (String.join (claims.map document)) ↔
          claims = twoLabelled.claims {})) ∧
      creations (provision Store.backend {} {} twoLabelled (.start 0 {})).2.history =
        twoLabelled.claims {} := by
  have fits : labelledTwice.count < twoTo 32 := by decide
  obtain ⟨describes, agrees⟩ := render_agrees labelledTwice {} fits
  obtain ⟨-, -, agrees⟩ := agrees _ describes
  have found : labelledTwice.workspace.workload = .ok twoLabelled := by decide +kernel
  have through : (submission Store.backend {} {} twoLabelled (.start 0 {})).1 =
      .ok 900000000000 := by decide +kernel
  obtain ⟨rendered, writable, determined, created⟩ := agrees _ found
  exact ⟨fits, describes, found, rendered, writable, determined,
    (created Store Store.backend {} {} 0 {} rfl).2.1 ⟨_, through⟩⟩

end Running

end ManifestRequest

end NodeProvisioning
