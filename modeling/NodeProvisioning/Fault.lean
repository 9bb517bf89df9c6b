import NodeProvisioning.RequestError

/-!
# Faults outside a run

What can go wrong before or besides a run: a failed request, a value that does not pass validation,
one that cannot be decoded, and faults of the surroundings.

## Main definitions

* `Fault` — the cause, and its wording `Fault.message`
* `Fault.isRetryable` — whether doing the same again may help
-/

namespace NodeProvisioning

/-- What went wrong before or besides a run. -/
inductive Fault where
  /-- A request failed. -/
  | request (source : RequestError)
  /-- A workspace, or another input, does not pass validation. -/
  | invalid (workspace detail : String) (field : Option String)
  /-- A value cannot be decoded. -/
  | undecodable (detail : String) (kind : Option String)
  /-- The surroundings failed. -/
  | internal (context detail : String)
deriving DecidableEq, Repr

namespace Fault

/-- The workspace named where none is known. -/
def unknownWorkspace : String := "unknown"

/-- An input that does not pass validation. -/
def validation (detail : String) : Fault := .invalid unknownWorkspace detail none

/-- A field of a workspace that does not pass validation. -/
def validationOf (workspace field detail : String) : Fault := .invalid workspace detail (some field)

/-- The wording of a fault. -/
def message : Fault → String
  | .request e => "kubernetes error: " ++ e.message
  | .invalid workspace detail _ => "validation error for " ++ workspace ++ ": " ++ detail
  | .undecodable detail _ => "serialization error: " ++ detail
  | .internal context detail => "internal error [" ++ context ++ "]: " ++ detail

/-- Whether doing the same again may help. -/
def isRetryable : Fault → Bool
  | .request e => e.isTransient
  | .invalid .. => false
  | .undecodable .. => false
  | .internal .. => true

end Fault

end NodeProvisioning
