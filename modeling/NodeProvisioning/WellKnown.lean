/-!
# Well-known names

The labels, annotations and values by which node claims, workspaces and nodes recognise each other.

## Main definitions

* `WellKnown.workspaceLabel`, `WellKnown.workspaceNsLabel` — whose claim it is
* `WellKnown.nodePoolLabel`, `WellKnown.nodePool` — the pool that all claims join
* `WellKnown.instanceTypeLabel`, `WellKnown.osLabel` — what the node is
-/

namespace NodeProvisioning.WellKnown

/-- The label with the name of the workspace that a claim belongs to. -/
def workspaceLabel : String := "kaito.sh/workspace"

/-- The label with the namespace of the workspace that a claim belongs to. -/
def workspaceNsLabel : String := "kaito.sh/workspacenamespace"

/-- The label with the pool of a node. -/
def nodePoolLabel : String := "karpenter.sh/nodepool"

/-- The pool that all claims join. -/
def nodePool : String := "kaito"

/-- The annotation that keeps a node from being replaced. -/
def doNotDisrupt : String := "karpenter.sh/do-not-disrupt"

/-- The label with the instance type of a node. -/
def instanceTypeLabel : String := "node.kubernetes.io/instance-type"

/-- The label with the operating system of a node. -/
def osLabel : String := "kubernetes.io/os"

/-- The operating system of every node asked for. -/
def os : String := "linux"

end NodeProvisioning.WellKnown
