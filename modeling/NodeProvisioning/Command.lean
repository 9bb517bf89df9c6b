import NodeProvisioning.CommandError
import NodeProvisioning.CommandLine.Invocation
import NodeProvisioning.Http.ApiClient
import NodeProvisioning.Retry
import NodeProvisioning.Run.Provisioning
import NodeProvisioning.Yaml.Block

/-!
# Commands

What each subcommand does. Manifests are written without a cluster; the other two read the workspace
from the cluster's API, run, and report.

## Main definitions

* `ManifestRequest.render` — the manifests of a request as a stream of documents
* `Command.readWorkload` — the workload of a workspace, asked for up to five times
* `Command.execute` — the work of an invocation, and how it ends
-/

namespace NodeProvisioning

namespace GlobalOptions

/-- What the claims ask for beyond the workload. -/
def manifestOptions (o : GlobalOptions) : ManifestOptions where
  cloudProvider := o.cloudProvider
  storageRequest := o.storage

/-- How a run goes. -/
def runConfig (o : GlobalOptions) : RunConfig where
  pollInterval := o.pollInterval
  timeout := o.timeout
  settleDelay := o.settleDelay
  manifest := o.manifestOptions

end GlobalOptions

namespace ManifestRequest

/-- The workload that manifests are requested for; of equal labels the last one counts. -/
def workload (r : ManifestRequest) : Except Fault Workload := do
  let w ← Workload.validate r.target.workspace r.target.ns
    { count := some r.count, instanceType := r.instanceType }
  return { w with labelSelector := SortedMap.ofList r.labels, uid := r.uid }

/-- One claim as a document of a stream. -/
def document (claim : NodeClaim) : String := "---\n" ++ Yaml.write claim.encode

/-- The claims of a request as a stream of documents. -/
def render (r : ManifestRequest) (options : ManifestOptions) : Except Fault String := do
  let w ← r.workload
  return String.join ((w.claims options).map document)

end ManifestRequest

namespace Command

/-- How a command ends. -/
inductive Ending where
  /-- It has printed a text. -/
  | printed (text : String)
  /-- It has failed. -/
  | failed (error : CommandError)
  /-- Its deadline is later than the clock can hold. -/
  | clockOverflow
  /-- It never ends. -/
  | stalled
deriving DecidableEq, Repr

variable {τ : Type}

/-! ## Reading the workspace -/

/-- How often a workspace is asked for. -/
def readAttempts : Nat := 5

/-- The workspace that the retried requests have found. -/
def fetched (target : Target) :
    Option (Retry.Report RequestError WorkspaceObject) → Except CommandError Workload
  | some ⟨.returned (.ok object), _, _⟩ =>
    match object.workload with
    | .ok w => .ok w
    | .error e => .error (.fault e)
  | some ⟨.returned (.error e), _, _⟩ => .error (.workspaceFetch target.ns target.workspace e)
  | _ => .error (.fault (.internal "get_workspace" "out of attempts"))

/-- The workload of a workspace. A request that failed for now is sent again, with backoff. -/
def readWorkload (t : Http.Transport τ) (target : Target) (s : τ) :
    τ × Except CommandError Workload :=
  let (s, report) := Retry.run { maxAttempts := readAttempts } RequestError.isTransient
    (fun _ => 1) (Http.getWorkspace t target.ns target.workspace) readAttempts s
  (s, fetched target report)

/-! ## Running -/

/-- How a command ends when its run has ended. -/
def ending (report : String) : Except Halt Unit → Ending
  | .ok () => .printed report
  | .error (.failed e) => .failed (.provision e)
  | .error .clockOverflow => .clockOverflow
  | .error .stalled => .stalled

/-- Read the workspace, then run on its workload. -/
def runOn (t : Http.Transport τ) (target : Target) (report : Workload → String)
    (run : Workload → Run τ Unit) (s : τ) : τ × Ending :=
  match readWorkload t target s with
  | (s, .error e) => (s, .failed e)
  | (s, .ok w) =>
    let (result, world) := run w ⟨0, s, []⟩
    (world.state, ending (report w) result)

/-- What is printed when the claims of a workload were provisioned. -/
def provisionReport (w : Workload) : String :=
  "workspace " ++ w.ns ++ "/" ++ w.name ++ ": " ++ toString w.nodeCount ++
    " node claim(s) ready\n"

/-- What is printed when the claims of a workload were waited for. -/
def waitReport (w : Workload) : String :=
  "workspace " ++ w.ns ++ "/" ++ w.name ++ ": node claims ready\n"

/-- Do the work of an invocation. What it needs of the cluster it asks of `connect`. -/
def execute (t : Http.Transport τ) (connect : Except Fault τ) (i : Invocation) :
    Option τ × Ending :=
  let config := i.options.runConfig
  let onCluster (target : Target) (report : Workload → String)
      (run : Backend τ → RunConfig → Signals → Workload → Run τ Unit) : Option τ × Ending :=
    match connect with
    | .error e => (none, .failed (.fault e))
    | .ok s =>
      let (s, e) := runOn t target report (run (Http.backend t) config {}) s
      (some s, e)
  match i.command with
  | .manifest r =>
    match r.render config.manifest with
    | .ok text => (none, .printed text)
    | .error e => (none, .failed (.fault e))
  | .provision target => onCluster target provisionReport Provisioning.provision
  | .wait target => onCluster target waitReport Provisioning.waitForListed

end Command

end NodeProvisioning
