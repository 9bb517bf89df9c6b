/-!
# Logging

Which log lines a process shows, and in which form. A process chooses once.

## Main definitions

* `LoggingConfig` — the choice
* `LoggingConfig.install` — make the choice, unless one was made before
-/

namespace NodeProvisioning

/-- Which log lines are shown, and in which form. -/
structure LoggingConfig where
  json : Bool := false
  /-- A level, and levels for the sources that differ from it. -/
  levels : String := "info,nodeclaim=debug,kube=info,tower=warn,hyper=warn"
deriving DecidableEq, Repr

/-- Why a choice was not made. -/
inductive LoggingError where
  | alreadyInstalled
deriving DecidableEq, Repr

/-- The wording of a choice that was not made. -/
def LoggingError.message : LoggingError → String
  | .alreadyInstalled =>
    "failed to initialize tracing subscriber: " ++
      "a global default trace dispatcher has already been set"

namespace LoggingConfig

/-- Make a choice where none was made before. -/
def install (c : LoggingConfig) : Option LoggingConfig → Except LoggingError LoggingConfig
  | none => .ok c
  | some _ => .error .alreadyInstalled

end LoggingConfig

end NodeProvisioning
