import NodeProvisioning.Command

/-!
# The program

Arguments and environment in, text and an exit status out. The program itself opens no connections:
manifests are complete without one, and the other subcommands say that there is none.

## Main definitions

* `main` — the command line
-/

namespace NodeProvisioning

namespace Main

/-- A transport that carries nothing. -/
def noTransport : Http.Transport Unit where
  send _ s := (s, .failed "no connection")

/-- The fault of a command that needs a connection. -/
def noConnection : Fault := .internal "create_client" "no cluster can be reached from here"

/-- What a command shows at its end, whether that is its output, and the exit status. -/
def shown : Command.Ending → String × Bool × UInt32
  | .printed text => (text, true, 0)
  | .failed e => ("Error: " ++ e.message ++ "\n", false, 1)
  | .clockOverflow => ("overflow when adding duration to instant\n", false, 101)
  | .stalled => ("", false, 1)

/-- What an invocation shows, whether that is its output, and the exit status. -/
def run (env : Environment) (args : List String) : String × Bool × UInt32 :=
  match Invocation.read env args with
  | .error e => (e.message ++ "\n", e.exitCode = 0, UInt32.ofNat e.exitCode)
  | .ok i => shown (Command.execute noTransport (.error noConnection) i).2

end Main

end NodeProvisioning

/-- The command line. -/
def main (args : List String) : IO UInt32 := do
  let kubeconfig ← IO.getEnv "KUBECONFIG"
  let cloudProvider ← IO.getEnv "CLOUD_PROVIDER"
  let (text, isOutput, status) := NodeProvisioning.Main.run { kubeconfig, cloudProvider } args
  let stream ← if isOutput then IO.getStdout else IO.getStderr
  stream.putStr text
  stream.flush
  return status
