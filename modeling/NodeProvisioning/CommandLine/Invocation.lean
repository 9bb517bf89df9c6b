import NodeProvisioning.CloudProvider
import NodeProvisioning.CommandLine.Options
import NodeProvisioning.CommandLine.Values

/-!
# Invocations

What a command line asks for: a subcommand with its target, under options that may stand before or
after it. The path of the client configuration and the cloud may also come from the environment.

## Main definitions

* `Invocation` — `GlobalOptions` and a `Subcommand`
* `Invocation.read` — the invocation that arguments and environment ask for
-/

namespace NodeProvisioning

/-- What every subcommand goes by. -/
structure GlobalOptions where
  kubeconfig : Option String
  logJson : Bool
  pollInterval : Duration
  timeout : Duration
  settleDelay : Duration
  cloudProvider : Option CloudProvider
  storage : Option String

/-- The workspace that a command is about. -/
structure Target where
  workspace : String
  ns : String
deriving DecidableEq, Repr

/-- What manifests are to be written for. -/
structure ManifestRequest where
  target : Target
  instanceType : String
  count : Nat
  labels : List (String × String)
  uid : Option String
deriving DecidableEq, Repr

/-- What is to be done. -/
inductive Subcommand where
  | provision (target : Target)
  | wait (target : Target)
  | manifest (request : ManifestRequest)
deriving DecidableEq, Repr

/-- What a command line asks for. -/
structure Invocation where
  options : GlobalOptions
  command : Subcommand

/-- The variables that stand in for options. -/
structure Environment where
  kubeconfig : Option String := none
  cloudProvider : Option String := none

namespace CommandLine

/-- The options that are understood. -/
inductive OptionId where
  | kubeconfig
  | logJson
  | pollInterval
  | timeout
  | settleDelay
  | cloudProvider
  | storage
  | workspace
  | ns
  | instanceType
  | count
  | label
  | uid
  | help
  | version
deriving DecidableEq, Repr

/-! ## Values of options -/

/-- A value, or the reason for its refusal. -/
def orRefused {ε α : Type} (message : ε → String) : Except ε α → Except UsageError α
  | .ok a => .ok a
  | .error e => .error (.refusedValue (message e))

/-- A path, which is not empty. -/
def readPath (s : String) : Except UsageError String :=
  if s = "" then .error .noValue else .ok s

/-- A duration. -/
def readDuration (s : String) : Except UsageError Duration :=
  orRefused CommandError.message (duration s)

/-- A duration that is not zero. -/
def readPollInterval (s : String) : Except UsageError Duration :=
  orRefused CommandError.message (pollInterval s)

/-- A cloud. -/
def readCloudProvider (s : String) : Except UsageError CloudProvider :=
  orRefused Fault.message (CloudProvider.ofText? s)

/-- A label. -/
def readLabel (s : String) : Except UsageError (String × String) :=
  orRefused CommandError.message (label s)

/-- A number of nodes. -/
def readCount (s : String) : Except UsageError Nat :=
  orRefused CountError.message (count s)

/-- Refuse a value of an option. -/
def checkValue (id : OptionId) (s : String) : Except UsageError Unit :=
  match id with
  | .kubeconfig => (readPath s).map fun _ => ()
  | .pollInterval => (readPollInterval s).map fun _ => ()
  | .timeout => (readDuration s).map fun _ => ()
  | .settleDelay => (readDuration s).map fun _ => ()
  | .cloudProvider => (readCloudProvider s).map fun _ => ()
  | .count => (readCount s).map fun _ => ()
  | .label => (readLabel s).map fun _ => ()
  | _ => .ok ()

/-! ## Levels -/

/-- The options that may stand before or after the subcommand. -/
def globalOptions : List (OptionSpec OptionId) := [
  { id := .kubeconfig, long := "kubeconfig" },
  { id := .logJson, long := "log-json", kind := .flag },
  { id := .pollInterval, long := "poll-interval" },
  { id := .timeout, long := "timeout" },
  { id := .settleDelay, long := "settle-delay" },
  { id := .cloudProvider, long := "cloud-provider" },
  { id := .storage, long := "storage" },
  { id := .help, long := "help", short := some 'h', kind := .help }]

/-- The options of a target. -/
def targetOptions : List (OptionSpec OptionId) := [
  { id := .workspace, long := "workspace", short := some 'w' },
  { id := .ns, long := "namespace", short := some 'n' }]

/-- The options of manifests. -/
def manifestOptions : List (OptionSpec OptionId) := [
  { id := .instanceType, long := "instance-type" },
  { id := .count, long := "count" },
  { id := .label, long := "label", kind := .repeatable },
  { id := .uid, long := "uid" }]

/-- The subcommands that do work. -/
def workSubcommands : List String := ["provision", "wait", "manifest"]

/-- What is understood before the subcommand. -/
def topLevel : Level OptionId where
  options := globalOptions ++
    [{ id := .version, long := "version", short := some 'V', kind := .version }]
  subcommands := workSubcommands ++ ["help"]
  check := checkValue

/-- What is understood after a subcommand. -/
def subLevel (name : String) : Level OptionId where
  options := targetOptions ++ (if name = "manifest" then manifestOptions else []) ++ globalOptions
  check := checkValue

/-- The options that must be there after a subcommand. -/
def requiredOptions (name : String) : List OptionId :=
  if name = "manifest" then [.workspace, .instanceType] else [.workspace]

/-! ## Reading -/

/-- The options that the environment stands in for. -/
def environmentValues (env : Environment) : List (OptionId × String) :=
  (env.kubeconfig.map fun v => (.kubeconfig, v)).toList ++
    (env.cloudProvider.map fun v => (.cloudProvider, v)).toList

/-- Refuse a value of the environment for an option that was not found. -/
def checkEnvironment (s : Scan OptionId) :
    List (OptionId × String) → Except UsageError Unit
  | [] => .ok ()
  | (id, value) :: rest => do
    if s.has id then pure () else checkValue id value
    checkEnvironment s rest

/-- Ask for help about a subcommand by name, or about all. -/
def helpError : List String → UsageError
  | [] => .helpRequested
  | [name] => if topLevel.subcommands.contains name then .helpRequested else .unknownSubcommand
  | _ => .unknownSubcommand

/-- The options after a subcommand. -/
def readSub (env : List (OptionId × String)) (name : String) (args : List String) :
    Except UsageError (Scan OptionId) := do
  let level := subLevel name
  let (s, _) ← level.scan args
  let s ← level.settle s
  checkEnvironment s env
  if (requiredOptions name).all s.has then return s else .error .missingRequired

/-- The value of an option as read, if it has one. -/
def valueOf {α : Type} (read : String → Except UsageError α) :
    Option String → Except UsageError (Option α)
  | none => .ok none
  | some s => (read s).map some

/-- The options that every subcommand goes by: after the subcommand, before it, or from the
environment. -/
def readGlobals (top sub : Scan OptionId) (env : Environment) :
    Except UsageError GlobalOptions := do
  let value (id : OptionId) : Option String := (sub.value? id).or (top.value? id)
  let kubeconfig ← valueOf readPath ((value .kubeconfig).or env.kubeconfig)
  let pollInterval ← valueOf readPollInterval (value .pollInterval)
  let timeout ← valueOf readDuration (value .timeout)
  let settleDelay ← valueOf readDuration (value .settleDelay)
  let cloudProvider ← valueOf readCloudProvider ((value .cloudProvider).or env.cloudProvider)
  return {
    kubeconfig
    logJson := (value .logJson).isSome
    pollInterval := pollInterval.getD (.ofSeconds 5)
    timeout := timeout.getD (.ofSeconds 900)
    settleDelay := settleDelay.getD (.ofSeconds 2)
    cloudProvider
    storage := value .storage }

/-- Every label, first to last. -/
def readLabels : List String → Except UsageError (List (String × String))
  | [] => .ok []
  | s :: rest => do
    let label ← readLabel s
    let labels ← readLabels rest
    return label :: labels

/-- The work of a subcommand. -/
def readCommand (name : String) (sub : Scan OptionId) : Except UsageError Subcommand := do
  let target : Target := {
    workspace := (sub.value? .workspace).getD ""
    ns := (sub.value? .ns).getD "default" }
  if name = "provision" then return .provision target
  else if name = "wait" then return .wait target
  else
    let count ← valueOf readCount (sub.value? .count)
    let labels ← readLabels (sub.values .label)
    return .manifest {
      target
      instanceType := (sub.value? .instanceType).getD ""
      count := count.getD 1
      labels
      uid := sub.value? .uid }

end CommandLine

open CommandLine in
/-- The invocation that arguments and environment ask for. What stands after the subcommand is
looked at before what stands in front of it. -/
def Invocation.read (env : Environment) (args : List String) : Except UsageError Invocation := do
  let values := environmentValues env
  let (top, sub) ← topLevel.scan args
  match sub with
  | none =>
    let top ← topLevel.settle top
    checkEnvironment top values
    if top.found.isEmpty ∧ values.isEmpty then .error .nothingGiven
    else .error .missingSubcommand
  | some (name, rest) =>
    if name = "help" then .error (helpError rest)
    else
      let sub ← readSub values name rest
      let top ← topLevel.settle top
      checkEnvironment top values
      let options ← readGlobals top sub env
      let command ← readCommand name sub
      return { options, command }

end NodeProvisioning
