import NodeProvisioning.ProvisionError

/-!
# Failed commands

Why a command did not do its work.

## Main definitions

* `CommandError` — the cause, and its wording `CommandError.message`
-/

namespace NodeProvisioning

/-- Why a command did not do its work. -/
inductive CommandError where
  /-- A fault besides a run. -/
  | fault (inner : Fault)
  /-- A run ended with an error. -/
  | provision (inner : ProvisionError)
  /-- The workspace could not be read. -/
  | workspaceFetch (ns name : String) (source : RequestError)
  /-- An argument is not valid. -/
  | invalid (message : String)
deriving DecidableEq, Repr

/-- The wording of an error. -/
def CommandError.message : CommandError → String
  | .fault inner => inner.message
  | .provision inner => inner.message
  | .workspaceFetch ns name source =>
    "failed to read workspace " ++ ns ++ "/" ++ name ++ ": " ++ source.message
  | .invalid message => "validation error: " ++ message

end NodeProvisioning
