import NodeProvisioning.Fault

/-!
# Failed runs

How a run that provisions or awaits node claims can end other than well.

## Main definitions

* `ProvisionError` — the cause, and its wording `ProvisionError.message`
* `ProvisionError.isRetryable` — whether another run may succeed
* `ProvisionError.claim?` — the claim that the error is about
* `ProvisionError.ofFetch` — the error of a failed look at a claim
-/

namespace NodeProvisioning

/-- How a run ends other than well. -/
inductive ProvisionError where
  /-- Creating a claim was refused. -/
  | submission (claim : String) (source : RequestError)
  /-- A claim was reported as failed. -/
  | provisioningFailed (claim reason : String)
  /-- Time ran out. -/
  | timeout (workspace : String) (pending : List String)
  /-- The run was cancelled. -/
  | cancelled (workspace : String)
  /-- Looking at a claim failed for good. -/
  | fetch (claim : String) (source : RequestError)
  /-- A claim is gone. -/
  | claimNotFound (claim : String)
  /-- There are fewer claims than nodes asked for. -/
  | incompleteClaims (workspace : String) (expected found : Nat)
  /-- Listing the claims failed. -/
  | list (workspace : String) (source : RequestError)
  /-- A fault outside the run. -/
  | fault (inner : Fault)
deriving DecidableEq, Repr

namespace ProvisionError

/-- The error of a look at a claim that failed for good: a claim that is not there is gone. -/
def ofFetch (claim : String) (source : RequestError) : ProvisionError :=
  if source.isNotFound then .claimNotFound claim else .fetch claim source

/-- The wording of an error. -/
def message : ProvisionError → String
  | .submission _ source => source.message
  | .provisioningFailed _ reason => reason
  | .timeout workspace pending =>
    "timed out waiting for node claims of workspace '" ++ workspace ++ "': " ++
      toString pending.length ++ " still pending (" ++ ", ".intercalate pending ++ ")"
  | .cancelled workspace =>
    "provisioning of node claims for workspace '" ++ workspace ++ "' was cancelled"
  | .fetch _ source => source.message
  | .claimNotFound claim => "node claim '" ++ claim ++ "' not found"
  | .incompleteClaims workspace expected found =>
    "workspace '" ++ workspace ++ "' needs " ++ toString expected ++ " node claim(s) but " ++
      toString found ++ " exist"
  | .list _ source => source.message
  | .fault inner => inner.message

/-- A claim was reported as failed. -/
def isProvisioningFailure : ProvisionError → Bool
  | .provisioningFailed .. => true
  | _ => false

/-- Time ran out. -/
def isTimeout : ProvisionError → Bool
  | .timeout .. => true
  | _ => false

/-- The run was cancelled. -/
def isCancelled : ProvisionError → Bool
  | .cancelled .. => true
  | _ => false

/-- Whether another run may succeed. -/
def isRetryable : ProvisionError → Bool
  | .submission _ source => source.isTransient
  | .fetch _ source => source.isTransient
  | .list _ source => source.isTransient
  | .provisioningFailed .. => false
  | .timeout .. => true
  | .cancelled .. => true
  | .claimNotFound .. => true
  | .incompleteClaims .. => true
  | .fault inner => inner.isRetryable

/-- The claim that the error is about. -/
def claim? : ProvisionError → Option String
  | .submission claim _ => some claim
  | .provisioningFailed claim _ => some claim
  | .fetch claim _ => some claim
  | .claimNotFound claim => some claim
  | _ => none

end ProvisionError

end NodeProvisioning
