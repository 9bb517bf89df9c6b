import NodeProvisioning.Metadata
import NodeProvisioning.NodeClaim.Key

/-!
# Node claims

A request for one compute node: which nodes will do, what they keep other work away with, and what
was reported about the node since.

## Main definitions

* `NodeClaim` — metadata, `NodeClaim.Spec` and an optional `NodeClaim.Status`
* `NodeClaim.Requirement`, `NodeClaim.Taint`, `NodeClaim.ClassReference` — the parts of a spec
* `NodeClaim.key` — namespace and name
-/

namespace NodeProvisioning

namespace NodeClaim

/-- How the values of a requirement constrain a label. -/
inductive Operator where
  | isIn
  | notIn
  | exists
  | doesNotExist
  | greater
  | less
deriving DecidableEq, Repr

/-- A constraint on one label of the node. -/
structure Requirement where
  key : String
  operator : Operator
  values : List String
deriving DecidableEq, Repr

/-- What happens to work that does not tolerate a taint. -/
inductive TaintEffect where
  | noSchedule
  | preferNoSchedule
  | noExecute
deriving DecidableEq, Repr

/-- A mark that keeps other work off the node. -/
structure Taint where
  key : String
  value : Option String
  effect : TaintEffect
deriving DecidableEq, Repr

/-- The cloud's own description of a class of nodes. -/
structure ClassReference where
  apiVersion : Option String
  kind : String
  name : String
deriving DecidableEq, Repr

/-- What a node is asked for. -/
structure Spec where
  requirements : List Requirement := []
  /-- Requested resources; `some` of an empty map when the block is there and empty. -/
  requests : Option Labels := none
  taints : List Taint := []
  classRef : Option ClassReference := none
deriving DecidableEq

/-- What was reported about the node. -/
structure Status where
  nodeName : Option String := none
  providerID : Option String := none
  conditions : List Condition := []
deriving DecidableEq, Repr

end NodeClaim

/-- A request for one compute node. -/
structure NodeClaim where
  metadata : Metadata
  spec : NodeClaim.Spec
  status : Option NodeClaim.Status

namespace NodeClaim

/-- The reported conditions, none without a status. -/
def conditions (c : NodeClaim) : List Condition :=
  match c.status with
  | some s => s.conditions
  | none => []

/-- The claim with a status of these conditions and nothing else. -/
def withConditions (c : NodeClaim) (l : List Condition) : NodeClaim :=
  { c with status := some { conditions := l } }

/-- The name of a claim, else what the server is to make one of. -/
def anyName (c : NodeClaim) : String := c.metadata.anyName

/-- The namespace, empty where it is absent. -/
def nsOrEmpty (c : NodeClaim) : String := c.metadata.ns.getD ""

/-- Namespace and name. -/
def key (c : NodeClaim) : ClaimKey := ⟨c.nsOrEmpty, c.anyName⟩

@[simp] theorem conditions_withConditions (c : NodeClaim) (l : List Condition) :
    (c.withConditions l).conditions = l := rfl

@[simp] theorem metadata_withConditions (c : NodeClaim) (l : List Condition) :
    (c.withConditions l).metadata = c.metadata := rfl

@[simp] theorem spec_withConditions (c : NodeClaim) (l : List Condition) :
    (c.withConditions l).spec = c.spec := rfl

@[simp] theorem key_withConditions (c : NodeClaim) (l : List Condition) :
    (c.withConditions l).key = c.key := rfl

end NodeClaim

end NodeProvisioning
