import NodeProvisioning.Fault
import NodeProvisioning.Json.Decoding
import NodeProvisioning.NodeClaim.Basic

/-!
# Cloud providers

The clouds whose class of nodes is known.

## Main definitions

* `CloudProvider` — the clouds
* `CloudProvider.ofText?` — by name, whatever its case
* `CloudProvider.nodeClass` — the class of nodes that a claim refers to
-/

namespace NodeProvisioning

/-- A cloud whose class of nodes is known. -/
inductive CloudProvider where
  | azure
  | aws
deriving DecidableEq, Repr

namespace CloudProvider

/-- The name of a cloud. -/
def text : CloudProvider → String
  | .azure => "azure"
  | .aws => "aws"

/-- The cloud of a name in any case. Lower-casing ASCII is enough: no other character has an ASCII
letter of either name for its lower case. -/
def ofText? (s : String) : Except Fault CloudProvider :=
  let name := String.ofList (s.toList.map Char.toLower)
  if name = "azure" then .ok .azure
  else if name = "aws" then .ok .aws
  else .error (.validation ("invalid cloud provider: " ++ s ++ ", expected one of: azure, aws"))

/-- Read a cloud by its name in lower case. -/
def decode : Decoder CloudProvider := .oneOf [("azure", .azure), ("aws", .aws)]

/-- The class of nodes of a cloud. -/
def nodeClass : CloudProvider → NodeClaim.ClassReference
  | .azure => ⟨some "karpenter.azure.com/v1alpha2", "AKSNodeClass", "default"⟩
  | .aws => ⟨some "karpenter.k8s.aws/v1beta1", "EC2NodeClass", "default"⟩

/-- A cloud is found by its own name. -/
@[simp] theorem ofText?_text (p : CloudProvider) : ofText? p.text = .ok p := by
  cases p <;> rfl

end CloudProvider

end NodeProvisioning
