import NodeProvisioning.Run.Rounds

/-!
# Provisioning a workload

A workload is provisioned by submitting its claims and waiting until all are ready, under one
deadline. A workload that was provisioned before can be waited for without creating anything.

## Main definitions

* `Provisioning.submission` — submit every claim
* `Provisioning.provision` — submit every claim, then wait
* `Provisioning.listClaims` — the claims that the workload's selector finds
* `Provisioning.triage` — what listed claims mean for a wait
* `Provisioning.waitForListed` — wait for the claims that are there
-/

namespace NodeProvisioning.Provisioning

variable {σ : Type}

/-- Submit the claims of a workload in index order, up to a deadline which is the result. -/
def submission (b : Backend σ) (config : RunConfig) (signals : Signals) (w : Workload) :
    Run σ Instant := do
  let deadline ← Rounds.deadlineIn config.timeout
  Submission.submitAll b config.settleDelay signals w.name deadline (w.claims config.manifest)
  return deadline

/-- Submit the claims of a workload in index order, then wait until all are ready. The deadline
covers both. -/
def provision (b : Backend σ) (config : RunConfig) (signals : Signals) (w : Workload) :
    Run σ Unit := do
  let deadline ← submission b config signals w
  Rounds.awaitUntil b config.pollInterval signals w.name deadline
    ((w.claims config.manifest).map NodeClaim.key)

/-- The claims that the workload's selector finds, up to a cancellation. -/
def listClaims (b : Backend σ) (signals : Signals) (w : Workload) : Run σ (List NodeClaim) := do
  let limits : Submission.Limits := { signals, workspace := w.name }
  let listed ← Run.perform limits.pause (.list w.ns w.selector) (.list w.ns w.selector)
    fun t => b.list t w.ns w.selector
  match listed with
  | .ok claims => return claims
  | .error e => Run.fail (.list w.name e)

/-- The first listed claim that has failed, as an error. -/
def firstFailure : List NodeClaim → Option ProvisionError
  | [] => none
  | claim :: rest =>
    match claim.state with
    | .failed reason => some (.provisioningFailed claim.anyName reason)
    | _ => firstFailure rest

/-- What listed claims mean for a wait: a failed one ends it, then too few of them; otherwise the
pending ones are waited for. -/
def triage (w : Workload) (claims : List NodeClaim) : Except ProvisionError (List ClaimKey) :=
  match firstFailure claims with
  | some e => .error e
  | none =>
    if claims.length < w.nodeCount then
      .error (.incompleteClaims w.name w.nodeCount claims.length)
    else .ok ((claims.filter fun c => c.state = .pending).map NodeClaim.key)

/-- Wait for the claims that are there, without creating any. -/
def waitForListed (b : Backend σ) (config : RunConfig) (signals : Signals) (w : Workload) :
    Run σ Unit := do
  let limits : Submission.Limits := { signals, workspace := w.name }
  limits.check
  let claims ← listClaims b signals w
  match triage w claims with
  | .error e => Run.fail e
  | .ok pending => Rounds.await b config signals w.name pending

end NodeProvisioning.Provisioning
