import NodeProvisioning.Fault
import NodeProvisioning.Metadata
import NodeProvisioning.Text.Blank
import NodeProvisioning.WellKnown

/-!
# Workspaces and workloads

A workspace asks for nodes in its resource block. What passes validation is a workload: a namespaced
name, at least one node, an instance type that is not blank, and the labels that every node carries.

## Main definitions

* `ResourceBlock` — the request as written, with `ResourceBlock.decode` and `ResourceBlock.encode`
* `Workload` — the request as validated, by `Workload.validate`
* `WorkspaceObject.workload` — the workload of a stored workspace
* `Workload.selector` — the text that selects the claims of a workload
-/

namespace NodeProvisioning

/-! ## The resource block -/

/-- A condition on one label. -/
structure LabelExpression where
  key : String
  operator : String
  values : Option (List String)
deriving DecidableEq, Repr

namespace LabelExpression

/-- Read a condition on one label; a missing text is empty. -/
def decode : Decoder LabelExpression := fun v => do
  let fs ← v.openRecord "LabelSelectorRequirement"
  let key ← fs.nullable "key" .string
  let operator ← fs.nullable "operator" .string
  let values ← fs.nullable "values" (.list .string)
  return { key := key.getD "", operator := operator.getD "", values }

/-- The written form of a condition on one label. -/
def encode (e : LabelExpression) : Json :=
  .obj ([("key", .str e.key), ("operator", .str e.operator)] ++
    Json.present "values" Json.strs e.values)

end LabelExpression

/-- Labels that a node must carry. -/
structure LabelSelector where
  matchExpressions : Option (List LabelExpression) := none
  matchLabels : Option Labels := none
deriving DecidableEq

namespace LabelSelector

/-- Read a label selector. -/
def decode : Decoder LabelSelector := fun v => do
  let fs ← v.openRecord "LabelSelector"
  let matchExpressions ← fs.nullable "matchExpressions" (.list LabelExpression.decode)
  let matchLabels ← fs.nullable "matchLabels" (.map .string)
  return { matchExpressions, matchLabels }

/-- The written form of a label selector. -/
def encode (s : LabelSelector) : Json :=
  .obj (Json.present "matchExpressions" (fun l => .arr (l.map LabelExpression.encode))
      s.matchExpressions ++
    Json.present "matchLabels" Json.ofStringMap s.matchLabels)

end LabelSelector

/-- What a workspace asks for, as written. -/
structure ResourceBlock where
  count : Option Nat := none
  instanceType : String := ""
  labelSelector : Option LabelSelector := none
deriving DecidableEq

namespace ResourceBlock

/-- Read a resource block. -/
def decode : Decoder ResourceBlock := fun v => do
  let fs ← v.record "struct ResourceSpec" ["count", "instanceType", "labelSelector"]
  let count ← fs.nullable "count" (.natural 32)
  let instanceType ← fs.optional "instanceType" .string
  let labelSelector ← fs.nullable "labelSelector" LabelSelector.decode
  return { count, instanceType := instanceType.getD "", labelSelector }

/-- The written form of a resource block. -/
def encode (r : ResourceBlock) : Json :=
  .obj (Json.present "count" Json.nat r.count ++
    [("instanceType", .str r.instanceType)] ++
    Json.present "labelSelector" LabelSelector.encode r.labelSelector)

/-- The labels that every node must carry. -/
def labels (r : ResourceBlock) : Labels := (r.labelSelector.bind (·.matchLabels)).getD ∅

end ResourceBlock

/-! ## Workloads -/

/-- What provisioning needs to know about one workspace. -/
structure Workload where
  name : String
  ns : String
  uid : Option String
  nodeCount : Nat
  instanceType : String
  labelSelector : Labels
deriving DecidableEq

namespace Workload

/-- The workload that a resource block asks for: the first of namespace, node count and instance
type that will not do is reported. -/
def validate (name ns : String) (resource : ResourceBlock) : Except Fault Workload :=
  let nodeCount := resource.count.getD 1
  if ns = "" then
    .error (.validationOf name "metadata.namespace" "workspace must be namespaced")
  else if nodeCount = 0 then
    .error (.validationOf name "resource.count" "node count must be at least 1")
  else if Text.trim resource.instanceType = "" then
    .error (.validationOf name "resource.instanceType" "instance type must not be empty")
  else .ok {
    name, ns, uid := none, nodeCount
    instanceType := resource.instanceType
    labelSelector := resource.labels }

/-- The workload with the identity of its workspace. -/
def withUid (w : Workload) (uid : Option String) : Workload :=
  match uid with
  | some u => { w with uid := some u }
  | none => w

/-- The text that selects the claims of a workload. -/
def selector (w : Workload) : String :=
  WellKnown.workspaceLabel ++ "=" ++ w.name ++ "," ++ WellKnown.workspaceNsLabel ++ "=" ++ w.ns

end Workload

/-! ## Stored workspaces -/

/-- A workspace as the server stores it: metadata, and everything else unread. -/
structure WorkspaceObject where
  metadata : Metadata
  /-- The top-level members. What is no object has none. -/
  members : List (String × Json)

namespace WorkspaceObject

/-- The group of the resource type. -/
def group : String := "kaito.sh"

/-- The version of the resource type. -/
def version : String := "v1alpha1"

/-- The kind of the resource type. -/
def kindName : String := "Workspace"

/-- The collection of the resource type. -/
def plural : String := "workspaces"

/-- Group and version. -/
def apiVersion : String := group ++ "/" ++ version

/-- Read an object of any kind; metadata may be absent. What is not metadata is kept as it stands,
each object within it in canonical form, so of equal keys the last one counts there. -/
def decode : Decoder WorkspaceObject := fun v => do
  match v with
  | .obj members =>
    if 1 < members.countP (fun m => m.1 == "metadata") then
      .error (.repeatedField "metadata")
    else
      let fs : Fields := ⟨members, .missingField⟩
      let metadata ← fs.optional "metadata" Metadata.decode
      return { metadata := metadata.getD {}, members := Json.canonicalMembers members }
  | v => .error (.mistyped v "struct DynamicObject")

/-- The workload of a workspace: its resource block must be there, must decode, and must pass
validation. -/
def workload (o : WorkspaceObject) : Except Fault Workload := do
  let name := o.metadata.anyName
  match Json.lookup "resource" o.members with
  | none => .error (.validationOf name "resource" "workspace has no resource block")
  | some block =>
    match ResourceBlock.decode block with
    | .error e => .error (.undecodable ("invalid resource block: " ++ e.message) (some kindName))
    | .ok resource =>
      let w ← Workload.validate name (o.metadata.ns.getD "") resource
      return w.withUid o.metadata.uid

end WorkspaceObject

end NodeProvisioning
