import NodeProvisioning.Manifest
import NodeProvisioning.NodeClaim.State
import NodeProvisioning.Run.Basic

/-!
# Submitting a claim

One claim is created, given a moment to settle, and looked at once. A claim that is already there
counts as created. Whether the look finds it pending or ready makes no difference; a failed claim or
an error that will stay ends the run.

## Main definitions

* `Submission.submit` — one claim, up to a cancellation
* `Submission.submitAll` — claims in order, up to a cancellation or a deadline

## Design notes

While a claim is submitted, a cancellation comes before everything that is due at the same instant,
and the deadline after it. So a deadline that has passed ends the run only where it has to wait, and
what the backend answers at once is still sent.
-/

namespace NodeProvisioning

/-- How long a run waits, and what it asks for. -/
structure RunConfig where
  /-- From the end of one round of looks to the next. -/
  pollInterval : Duration := .ofSeconds 5
  /-- From the start of the run to its deadline. -/
  timeout : Duration := .ofSeconds 900
  /-- From the creation of a claim to the look at it. -/
  settleDelay : Duration := .ofSeconds 2
  /-- What the claims ask for beyond the workload. -/
  manifest : ManifestOptions := {}

namespace Submission

variable {σ : Type}

/-- What ends the wait of a submission besides what it waits for. -/
structure Limits where
  signals : Signals
  /-- The workspace named by a cancellation. -/
  workspace : String
  /-- The deadline and the error that it ends with. -/
  deadline : Option (Instant × ProvisionError) := none

namespace Limits

/-- The alarms of a wait that begins now: cancellation, what it waits for, the deadline; but a
deadline that has already come goes before what has to wait. -/
def alarms (l : Limits) (now : Instant) (due : Option Instant) : List (Alarm Wake) :=
  let cancel : Alarm Wake := ⟨l.signals.cancelAt, .cancelled⟩
  let awaited : Alarm Wake := ⟨due, .due⟩
  let deadline : Alarm Wake := ⟨l.deadline.map (·.1), .expired⟩
  let abandon : Alarm Wake := ⟨l.signals.abandonAt, .abandoned⟩
  if l.deadline.any (·.1 ≤ now) then [cancel, deadline, awaited, abandon]
  else [cancel, awaited, deadline, abandon]

/-- Let time pass until an instant, or for ever, unless the run ends before. -/
def pause (l : Limits) (due : Option Instant) : Run σ Unit := do
  let t ← Run.now
  match ← Run.sleepUntil (l.alarms t due) with
  | .due => return ()
  | .cancelled => Run.fail (.cancelled l.workspace)
  | .expired =>
    match l.deadline with
    | some (_, e) => Run.fail e
    | none => Run.halt .stalled
  | .abandoned => Run.halt .stalled

/-- End the run if the cancellation has come. -/
def check (l : Limits) : Run σ Unit := do
  let t ← Run.now
  if l.signals.isCancelled t then Run.fail (.cancelled l.workspace) else return ()

end Limits

/-- What the look at a submitted claim means for the run. -/
def verdict (name : String) : Except RequestError NodeClaim → Except ProvisionError Unit
  | .ok claim =>
    match claim.state with
    | .failed reason => .error (.provisioningFailed name reason)
    | _ => .ok ()
  | .error e => if e.isTransient then .ok () else .error (.ofFetch name e)

/-- What the answer to a creation means for the run: a claim that is already there is as good as a
new one. -/
def accepted (name : String) : Except RequestError Unit → Except ProvisionError Unit
  | .ok () => .ok ()
  | .error e => if e.isAlreadyExists then .ok () else .error (.submission name e)

/-- End the run with an error, if there is one. -/
def settle : Except ProvisionError Unit → Run σ Unit
  | .ok () => pure ()
  | .error e => Run.fail e

/-- Create a claim. -/
def place (b : Backend σ) (l : Limits) (claim : NodeClaim) : Run σ Unit := do
  let created ← Run.perform l.pause (.create claim) (.create claim) fun t => b.create t claim
  settle (accepted claim.anyName created)

/-- Give a claim that was created a moment to settle. -/
def linger (settleDelay : Duration) (l : Limits) : Run σ Unit := do
  if settleDelay.isZero then return ()
  else
    let t ← Run.now
    l.pause (some (t + settleDelay.nanos))

/-- Look at a claim that was created. -/
def glance (b : Backend σ) (l : Limits) (claim : NodeClaim) : Run σ Unit := do
  let latest ← Run.perform l.pause (.get claim.key) (.get claim.key) fun t => b.get t claim.key
  settle (verdict claim.anyName latest)

/-- Create a claim, let it settle, and look at it. -/
def createAndCheck (b : Backend σ) (settleDelay : Duration) (l : Limits) (claim : NodeClaim) :
    Run σ Unit := do
  place b l claim
  linger settleDelay l
  glance b l claim

/-- The workspace that a claim names as its own, else the claim itself. -/
def workspaceOf (claim : NodeClaim) : String :=
  (claim.metadata.labelMap.find? WellKnown.workspaceLabel).getD claim.anyName

/-- Submit one claim, up to a cancellation and a deadline. -/
def submitUntil (b : Backend σ) (settleDelay : Duration) (signals : Signals)
    (deadline : Option (Instant × ProvisionError)) (claim : NodeClaim) : Run σ Unit := do
  let limits : Limits := { signals, workspace := workspaceOf claim, deadline }
  limits.check
  createAndCheck b settleDelay limits claim

/-- Submit one claim, up to a cancellation. -/
def submit (b : Backend σ) (settleDelay : Duration) (signals : Signals) (claim : NodeClaim) :
    Run σ Unit :=
  submitUntil b settleDelay signals none claim

/-- Submit claims one after the other. At the deadline the claims from the current one on are
pending. -/
def submitAll (b : Backend σ) (settleDelay : Duration) (signals : Signals) (workspace : String)
    (deadline : Instant) : List NodeClaim → Run σ Unit
  | [] => pure ()
  | claim :: rest => do
    let pending := (claim :: rest).map NodeClaim.anyName
    submitUntil b settleDelay signals (some (deadline, .timeout workspace pending)) claim
    submitAll b settleDelay signals workspace deadline rest

end Submission

end NodeProvisioning
