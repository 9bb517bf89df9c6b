import NodeProvisioning.NodeClaim.Basic

/-!
# The written form of node claims

Group and kind are always written and never read; an absent status, empty taints and empty values
are left out, while requirements and requests are written even when empty.

## Main definitions

* `NodeClaim.decode`, `NodeClaim.encode`
* `NodeClaim.Spec.decode`, `NodeClaim.Status.decode` and their inverses
-/

namespace NodeProvisioning.NodeClaim

/-- The group of the resource type. -/
def group : String := "karpenter.sh"

/-- The version of the resource type. -/
def version : String := "v1beta1"

/-- The kind of the resource type. -/
def kindName : String := "NodeClaim"

/-- The collection of the resource type. -/
def plural : String := "nodeclaims"

/-- Group and version. -/
def apiVersion : String := group ++ "/" ++ version

namespace Operator

/-- Every operator with its name. -/
def names : List (String × Operator) := [
  ("In", .isIn), ("NotIn", .notIn), ("Exists", .exists), ("DoesNotExist", .doesNotExist),
  ("Gt", .greater), ("Lt", .less)]

/-- The name of an operator. -/
def text : Operator → String
  | .isIn => "In"
  | .notIn => "NotIn"
  | .exists => "Exists"
  | .doesNotExist => "DoesNotExist"
  | .greater => "Gt"
  | .less => "Lt"

end Operator

namespace Requirement

/-- Read a requirement. -/
def decode : Decoder Requirement := fun v => do
  let fs ← v.record "struct NodeSelectorRequirement" ["key", "operator", "values"]
  let key ← fs.optional "key" .string
  let operator ← fs.optional "operator" (.oneOf Operator.names)
  let values ← fs.optional "values" (.list .string)
  let key ← fs.need "key" key
  let operator ← fs.need "operator" operator
  return { key, operator, values := values.getD [] }

/-- The written form of a requirement. -/
def encode (r : Requirement) : Json :=
  .obj ([("key", .str r.key), ("operator", .str r.operator.text)] ++
    Json.unlessEmpty "values" .str r.values)

end Requirement

namespace TaintEffect

/-- Every effect with its name. -/
def names : List (String × TaintEffect) := [
  ("NoSchedule", .noSchedule), ("PreferNoSchedule", .preferNoSchedule), ("NoExecute", .noExecute)]

/-- The name of an effect. -/
def text : TaintEffect → String
  | .noSchedule => "NoSchedule"
  | .preferNoSchedule => "PreferNoSchedule"
  | .noExecute => "NoExecute"

end TaintEffect

namespace Taint

/-- Read a taint. -/
def decode : Decoder Taint := fun v => do
  let fs ← v.record "struct Taint" ["key", "value", "effect"]
  let effect ← fs.optional "effect" (.oneOf TaintEffect.names)
  let key ← fs.optional "key" .string
  let value ← fs.nullable "value" .string
  let key ← fs.need "key" key
  let effect ← fs.need "effect" effect
  return { key, value, effect }

/-- The written form of a taint. -/
def encode (t : Taint) : Json :=
  .obj ([("key", .str t.key)] ++ Json.present "value" .str t.value ++
    [("effect", .str t.effect.text)])

end Taint

namespace ClassReference

/-- Read a reference to a class of nodes. -/
def decode : Decoder ClassReference := fun v => do
  let fs ← v.record "struct NodeClassReference" ["apiVersion", "kind", "name"]
  let apiVersion ← fs.nullable "apiVersion" .string
  let kind ← fs.optional "kind" .string
  let name ← fs.optional "name" .string
  let kind ← fs.need "kind" kind
  let name ← fs.need "name" name
  return { apiVersion, kind, name }

/-- The written form of a reference to a class of nodes. -/
def encode (r : ClassReference) : Json :=
  .obj (Json.present "apiVersion" .str r.apiVersion ++
    [("kind", .str r.kind), ("name", .str r.name)])

end ClassReference

/-- Read the block of requested resources. -/
def decodeRequests : Decoder Labels := fun v => do
  let fs ← v.record "struct NodeClaimResources" ["requests"]
  let requests ← fs.optional "requests" (.map .string)
  return requests.getD ∅

/-- The written form of the block of requested resources. -/
def encodeRequests (m : Labels) : Json := .obj [("requests", .ofStringMap m)]

namespace Spec

/-- Read a spec. -/
def decode : Decoder Spec := fun v => do
  let fs ← v.record "struct NodeClaimSpec" ["requirements", "resources", "taints", "nodeClassRef"]
  let classRef ← fs.nullable "nodeClassRef" ClassReference.decode
  let requirements ← fs.optional "requirements" (.list Requirement.decode)
  let requests ← fs.nullable "resources" decodeRequests
  let taints ← fs.optional "taints" (.list Taint.decode)
  return { requirements := requirements.getD [], requests, taints := taints.getD [], classRef }

/-- The written form of a spec. -/
def encode (s : Spec) : Json :=
  .obj ([("requirements", .arr (s.requirements.map Requirement.encode))] ++
    Json.present "resources" encodeRequests s.requests ++
    Json.unlessEmpty "taints" Taint.encode s.taints ++
    Json.present "nodeClassRef" ClassReference.encode s.classRef)

end Spec

namespace Status

/-- Read a status. -/
def decode : Decoder Status := fun v => do
  let fs ← v.record "struct NodeClaimStatus" ["nodeName", "providerID", "conditions"]
  let conditions ← fs.optional "conditions" (.list Condition.decode)
  let nodeName ← fs.nullable "nodeName" .string
  let providerID ← fs.nullable "providerID" .string
  return { nodeName, providerID, conditions := conditions.getD [] }

/-- The written form of a status. -/
def encode (s : Status) : Json :=
  .obj (Json.present "nodeName" .str s.nodeName ++
    Json.present "providerID" .str s.providerID ++
    Json.unlessEmpty "conditions" Condition.encode s.conditions)

end Status

/-- Read a node claim. -/
def decode : Decoder NodeClaim := fun v => do
  let fs ← v.record "struct NodeClaim" ["metadata", "spec", "status"]
  let metadata ← fs.optional "metadata" Metadata.decode
  let spec ← fs.optional "spec" Spec.decode
  let status ← fs.nullable "status" Status.decode
  let metadata ← fs.need "metadata" metadata
  let spec ← fs.need "spec" spec
  return { metadata, spec, status }

/-- The written form of a node claim. -/
def encode (c : NodeClaim) : Json :=
  .obj ([("apiVersion", .str apiVersion), ("kind", .str kindName),
      ("metadata", c.metadata.encode), ("spec", c.spec.encode)] ++
    Json.present "status" Status.encode c.status)

end NodeProvisioning.NodeClaim
