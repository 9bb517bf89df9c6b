import NodeProvisioning.Condition

/-!
# Resource metadata

What every resource of a cluster carries: name, namespace, labels, annotations, owners and the
bookkeeping of the server. Every field may be absent.

## Main definitions

* `Metadata` — with `OwnerReference` and `ManagedFields`
* `Metadata.decode`, `Metadata.encode` — the written form
* `Metadata.anyName` — the name, or what the server is to make one of
-/

namespace NodeProvisioning

/-- A resource that another one belongs to. -/
structure OwnerReference where
  apiVersion : String
  blockOwnerDeletion : Option Bool
  controller : Option Bool
  kind : String
  name : String
  uid : String
deriving DecidableEq, Repr

namespace OwnerReference

/-- Read an owner reference; a missing text is empty. -/
def decode : Decoder OwnerReference := fun v => do
  let fs ← v.openRecord "OwnerReference"
  let apiVersion ← fs.nullable "apiVersion" .string
  let blockOwnerDeletion ← fs.nullable "blockOwnerDeletion" .bool
  let controller ← fs.nullable "controller" .bool
  let kind ← fs.nullable "kind" .string
  let name ← fs.nullable "name" .string
  let uid ← fs.nullable "uid" .string
  return {
    apiVersion := apiVersion.getD ""
    blockOwnerDeletion
    controller
    kind := kind.getD ""
    name := name.getD ""
    uid := uid.getD "" }

/-- The written form of an owner reference. -/
def encode (o : OwnerReference) : Json :=
  .obj ([("apiVersion", .str o.apiVersion)] ++
    Json.present "blockOwnerDeletion" .bool o.blockOwnerDeletion ++
    Json.present "controller" .bool o.controller ++
    [("kind", .str o.kind), ("name", .str o.name), ("uid", .str o.uid)])

end OwnerReference

/-- Which fields of a resource one manager has set. -/
structure ManagedFields where
  apiVersion : Option String
  fieldsType : Option String
  fieldsV1 : Option Json
  manager : Option String
  operation : Option String
  subresource : Option String
  time : Option Timestamp
deriving Repr

namespace ManagedFields

/-- Read an entry. -/
def decode : Decoder ManagedFields := fun v => do
  let fs ← v.openRecord "ManagedFieldsEntry"
  let apiVersion ← fs.nullable "apiVersion" .string
  let fieldsType ← fs.nullable "fieldsType" .string
  let fieldsV1 ← fs.nullable "fieldsV1" .any
  let manager ← fs.nullable "manager" .string
  let operation ← fs.nullable "operation" .string
  let subresource ← fs.nullable "subresource" .string
  let time ← fs.nullable "time" Timestamp.decode
  return { apiVersion, fieldsType, fieldsV1, manager, operation, subresource, time }

/-- The written form of an entry. -/
def encode (m : ManagedFields) : Json :=
  .obj (Json.present "apiVersion" .str m.apiVersion ++
    Json.present "fieldsType" .str m.fieldsType ++
    Json.present "fieldsV1" id m.fieldsV1 ++
    Json.present "manager" .str m.manager ++
    Json.present "operation" .str m.operation ++
    Json.present "subresource" .str m.subresource ++
    Json.present "time" Timestamp.encode m.time)

end ManagedFields

/-- A map of texts to texts, such as labels. -/
abbrev Labels := SortedMap String String

/-- What every resource carries. -/
structure Metadata where
  annotations : Option Labels := none
  creationTimestamp : Option Timestamp := none
  deletionGracePeriodSeconds : Option Int := none
  deletionTimestamp : Option Timestamp := none
  finalizers : Option (List String) := none
  generateName : Option String := none
  generation : Option Int := none
  labels : Option Labels := none
  managedFields : Option (List ManagedFields) := none
  name : Option String := none
  /-- The namespace that holds the resource. -/
  ns : Option String := none
  ownerReferences : Option (List OwnerReference) := none
  resourceVersion : Option String := none
  selfLink : Option String := none
  uid : Option String := none

namespace Metadata

/-- Read metadata. -/
def decode : Decoder Metadata := fun v => do
  let fs ← v.openRecord "ObjectMeta"
  let annotations ← fs.nullable "annotations" (.map .string)
  let creationTimestamp ← fs.nullable "creationTimestamp" Timestamp.decode
  let deletionGracePeriodSeconds ← fs.nullable "deletionGracePeriodSeconds" .int64
  let deletionTimestamp ← fs.nullable "deletionTimestamp" Timestamp.decode
  let finalizers ← fs.nullable "finalizers" (.list .string)
  let generateName ← fs.nullable "generateName" .string
  let generation ← fs.nullable "generation" .int64
  let labels ← fs.nullable "labels" (.map .string)
  let managedFields ← fs.nullable "managedFields" (.list ManagedFields.decode)
  let name ← fs.nullable "name" .string
  let ns ← fs.nullable "namespace" .string
  let ownerReferences ← fs.nullable "ownerReferences" (.list OwnerReference.decode)
  let resourceVersion ← fs.nullable "resourceVersion" .string
  let selfLink ← fs.nullable "selfLink" .string
  let uid ← fs.nullable "uid" .string
  return {
    annotations, creationTimestamp, deletionGracePeriodSeconds, deletionTimestamp, finalizers,
    generateName, generation, labels, managedFields, name, ns, ownerReferences,
    resourceVersion, selfLink, uid }

/-- The written form of metadata. -/
def encode (m : Metadata) : Json :=
  .obj (Json.present "annotations" Json.ofStringMap m.annotations ++
    Json.present "creationTimestamp" Timestamp.encode m.creationTimestamp ++
    Json.present "deletionGracePeriodSeconds" (fun n => .num (.integer n))
      m.deletionGracePeriodSeconds ++
    Json.present "deletionTimestamp" Timestamp.encode m.deletionTimestamp ++
    Json.present "finalizers" Json.strs m.finalizers ++
    Json.present "generateName" .str m.generateName ++
    Json.present "generation" (fun n => .num (.integer n)) m.generation ++
    Json.present "labels" Json.ofStringMap m.labels ++
    Json.present "managedFields" (fun l => .arr (l.map ManagedFields.encode)) m.managedFields ++
    Json.present "name" .str m.name ++
    Json.present "namespace" .str m.ns ++
    Json.present "ownerReferences" (fun l => .arr (l.map OwnerReference.encode))
      m.ownerReferences ++
    Json.present "resourceVersion" .str m.resourceVersion ++
    Json.present "selfLink" .str m.selfLink ++
    Json.present "uid" .str m.uid)

/-- The name, else what the server is to make a name of, else nothing. -/
def anyName (m : Metadata) : String := (m.name.or m.generateName).getD ""

/-- The labels, none where they are absent. -/
def labelMap (m : Metadata) : Labels := m.labels.getD ∅

end Metadata

end NodeProvisioning
