import NodeProvisioning.NodeClaim.Basic

/-!
# The state of a node claim

What its conditions say about a claim: a launch that did not succeed is terminal, whatever else is
reported; otherwise a ready node is ready; otherwise the claim is pending.

## Main definitions

* `ClaimState` — pending, ready or failed with a reason
* `ClaimState.join` — failed over ready over pending, the first failure kept
* `ClaimState.ofConditions` — the state that a list of conditions shows
* `ClaimState.ofCondition` — the state that one condition shows by itself
-/

namespace NodeProvisioning

/-- What is known of a claim. -/
inductive ClaimState where
  | pending
  | ready
  | failed (reason : String)
deriving DecidableEq, Repr

namespace ClaimState

/-- The more decisive of two states; of two failures the first. -/
def join : ClaimState → ClaimState → ClaimState
  | .failed r, _ => .failed r
  | _, .failed r => .failed r
  | .ready, _ => .ready
  | .pending, s => s

/-- The reason given where a launch failure names none. -/
def unnamedFailure : String := "node claim launch failed"

/-- Why a launch failed: the message, else the reason, else a fixed text. -/
def failureReason (c : Condition) : String :=
  if c.message ≠ "" then c.message
  else if c.reason ≠ "" then c.reason
  else unnamedFailure

/-- The state that one condition shows by itself. -/
def ofCondition (c : Condition) : ClaimState :=
  if c.fails .launched then .failed (failureReason c)
  else if c.holds .ready then .ready
  else .pending

/-- The state that conditions show: the first failed launch, else any readiness, else pending. -/
def ofConditions (l : List Condition) : ClaimState :=
  match l.find? (·.fails .launched) with
  | some c => .failed (failureReason c)
  | none => if l.any (·.holds .ready) then .ready else .pending

@[simp] theorem ofConditions_nil : ofConditions [] = .pending := rfl

/-- A reason is never empty. -/
theorem failureReason_ne_empty (c : Condition) : failureReason c ≠ "" := by
  unfold failureReason
  repeat' split
  all_goals simp_all [unnamedFailure]

end ClaimState

/-- The state of a claim as last reported. -/
def NodeClaim.state (c : NodeClaim) : ClaimState := .ofConditions c.conditions

end NodeProvisioning
