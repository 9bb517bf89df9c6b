import NodeProvisioning.CloudProvider
import NodeProvisioning.Digest.Sha256
import NodeProvisioning.Workload

/-!
# Manifests

The node claims that a workload is given, one for each node. The name of a claim is made of the
workload's namespace and name and the claim's index alone, so that a later run finds the claims of
an earlier one.

## Main definitions

* `Workload.claimName` — `ws` and nine hexadecimal digits of a digest
* `Manifest.requirements`, `Manifest.labels` — what the node must be, and how the claim is found
* `Workload.claim` — the claim of one index
* `Workload.claims` — the claims of a workload in index order
-/

namespace NodeProvisioning

/-- What a claim asks for beyond its workload. -/
structure ManifestOptions where
  cloudProvider : Option CloudProvider := none
  storageRequest : Option String := none
deriving DecidableEq

/-- The first sixteen digits of the digest of a text. -/
def shortDigest (text : String) : List Char := (Digest.sha256Hex text).take 16

namespace Workload

/-- The text whose digest names the claim of an index. -/
def claimSeed (w : Workload) (index : String) : String := w.ns ++ "/" ++ w.name ++ "/" ++ index

/-- The name of the claim of an index: `ws` and the first nine digits of its digest. -/
def claimName (w : Workload) (index : String) : String :=
  String.ofList ('w' :: 's' :: (shortDigest (w.claimSeed index)).take 9)

/-- The key of the claim of an index. -/
def claimKey (w : Workload) (index : String) : ClaimKey := ⟨w.ns, w.claimName index⟩

end Workload

namespace Manifest

open NodeClaim

/-- A requirement of one value for a label. -/
def requireValue (key value : String) : Requirement := ⟨key, .isIn, [value]⟩

/-- The labels that every node of the workload must have, whatever it selects. -/
def fixedRequirements (w : Workload) : List (String × String) := [
  (WellKnown.instanceTypeLabel, w.instanceType),
  (WellKnown.nodePoolLabel, WellKnown.nodePool),
  (WellKnown.osLabel, WellKnown.os)]

/-- Require one more label, unless the label is required already. -/
def require (reqs : List Requirement) (e : String × String) : List Requirement :=
  if reqs.any fun r => r.key = e.1 then reqs else reqs ++ [requireValue e.1 e.2]

/-- Every requirement on the node: the fixed labels, then each selected one, in key order, that is
not required already. -/
def requirements (w : Workload) : List Requirement :=
  w.labelSelector.entries.foldl require ((fixedRequirements w).map fun e => requireValue e.1 e.2)

/-- The labels of a claim: the selected ones, then pool and workload, which nothing overrides. -/
def labels (w : Workload) : Labels :=
  ((w.labelSelector.insert WellKnown.nodePoolLabel WellKnown.nodePool).insert
    WellKnown.workspaceLabel w.name).insert WellKnown.workspaceNsLabel w.ns

/-- The annotations of a claim. -/
def annotations : Labels := (∅ : Labels).insert WellKnown.doNotDisrupt "true"

/-- Work that does not need the node's processors stays away. -/
def taint : Taint := ⟨"sku", some "gpu", .noSchedule⟩

/-- The workspace as the owner of a claim, where its identity is known. -/
def owners (w : Workload) : Option (List OwnerReference) :=
  w.uid.map fun uid => [{
    apiVersion := WorkspaceObject.apiVersion
    blockOwnerDeletion := some false
    controller := some false
    kind := WorkspaceObject.kindName
    name := w.name
    uid }]

end Manifest

namespace Workload

/-- The claim of an index. -/
def claim (w : Workload) (options : ManifestOptions) (index : String) : NodeClaim where
  metadata := {
    annotations := some Manifest.annotations
    labels := some (Manifest.labels w)
    name := some (w.claimName index)
    ns := some w.ns
    ownerReferences := Manifest.owners w }
  spec := {
    requirements := Manifest.requirements w
    requests := options.storageRequest.map fun v => (∅ : Labels).insert "storage" v
    taints := [Manifest.taint]
    classRef := options.cloudProvider.map CloudProvider.nodeClass }
  status := none

/-- The index of a node in text. -/
def indexText (i : Nat) : String := toString i

/-- The claims of a workload, one for each node, in index order. -/
def claims (w : Workload) (options : ManifestOptions) : List NodeClaim :=
  (List.range w.nodeCount).map fun i => w.claim options (indexText i)

@[simp] theorem length_claims (w : Workload) (options : ManifestOptions) :
    (w.claims options).length = w.nodeCount := by
  simp [claims]

@[simp] theorem key_claim (w : Workload) (options : ManifestOptions) (index : String) :
    (w.claim options index).key = w.claimKey index := rfl

@[simp] theorem anyName_claim (w : Workload) (options : ManifestOptions) (index : String) :
    (w.claim options index).anyName = w.claimName index := rfl

end Workload

end NodeProvisioning
