/-!
# Options and arguments

The arguments of a command are options with a long name and perhaps a letter, and at the top level
the name of a subcommand. A value follows its option after a blank, an equals sign, or, behind a
letter, directly; after a blank it must not look like an option.

## Main definitions

* `OptionSpec`, `Level` — what is understood at one level
* `UsageError` — why arguments are not understood
* `Level.scan` — the options of one level, and the subcommand with the arguments after it
* `Level.settle` — complete the option that a scan ended with

## Design notes

A value that follows after a blank is looked at only when the next option is understood, or at the
end; so an argument that is not understood goes before it. A value that is attached is looked at at
once.
-/

namespace NodeProvisioning.CommandLine

/-- Why arguments are not understood. -/
inductive UsageError where
  /-- An option that must be there is not. -/
  | missingRequired
  /-- A value is refused, with the reason. -/
  | refusedValue (cause : String)
  /-- An option has no value. -/
  | noValue
  /-- An argument is not known. -/
  | unknownArgument
  /-- A subcommand is not known. -/
  | unknownSubcommand
  /-- An option that may stand once is there twice. -/
  | repeated
  /-- An option that takes no value has one. -/
  | unwantedValue
  /-- There is no subcommand. -/
  | missingSubcommand
  /-- There is nothing at all. -/
  | nothingGiven
  /-- Help is asked for. -/
  | helpRequested
  /-- The version is asked for. -/
  | versionRequested
deriving DecidableEq, Repr

/-- The exit status of a program that does not understand its arguments: success where it was asked
about itself. -/
def UsageError.exitCode : UsageError → Nat
  | .helpRequested => 0
  | .versionRequested => 0
  | _ => 2

/-- The wording of arguments that are not understood. -/
def UsageError.message : UsageError → String
  | .missingRequired => "a required argument is missing"
  | .refusedValue cause => "a value is invalid: " ++ cause
  | .noValue => "an argument has no value"
  | .unknownArgument => "an argument is unknown"
  | .unknownSubcommand => "the subcommand is unknown"
  | .repeated => "an argument is there twice"
  | .unwantedValue => "an argument takes no value"
  | .missingSubcommand => "a subcommand is required"
  | .nothingGiven => "nothing to do: provision, wait or manifest"
  | .helpRequested => "nodeclaim (provision | wait | manifest) -w NAME [-n NAMESPACE] ..."
  | .versionRequested => "nodeclaim"

/-- What an option takes. -/
inductive OptionKind where
  /-- A value, once. -/
  | single
  /-- A value each time. -/
  | repeatable
  /-- Nothing. -/
  | flag
  /-- Nothing: it asks for help. -/
  | help
  /-- Nothing: it asks for the version. -/
  | version
deriving DecidableEq, Repr

/-- Whether a value goes with an option. -/
def OptionKind.takesValue : OptionKind → Bool
  | .single => true
  | .repeatable => true
  | _ => false

/-- An option that is understood. -/
structure OptionSpec (ι : Type) where
  id : ι
  long : String
  short : Option Char := none
  kind : OptionKind := .single

/-- What is understood at one level. -/
structure Level (ι : Type) where
  options : List (OptionSpec ι)
  subcommands : List String := []
  /-- Refuse a value of an option. -/
  check : ι → String → Except UsageError Unit

/-- The options found so far, and one that may still get its value. -/
structure Scan (ι : Type) where
  found : List (ι × String) := []
  pending : Option (ι × Option String) := none

namespace Scan

variable {ι : Type} [DecidableEq ι]

/-- Whether an option was found. -/
def has (s : Scan ι) (id : ι) : Bool := s.found.any (·.1 = id)

/-- The last value of an option. -/
def value? (s : Scan ι) (id : ι) : Option String :=
  (s.found.reverse.find? (·.1 = id)).map (·.2)

/-- Every value of an option, first to last. -/
def values (s : Scan ι) (id : ι) : List String :=
  (s.found.filter (·.1 = id)).map (·.2)

/-- Whether the next argument may be the value of an option. -/
def awaitsValue (s : Scan ι) : Bool :=
  match s.pending with
  | some (_, none) => true
  | _ => false

end Scan

namespace Level

variable {ι : Type} [DecidableEq ι]

/-- Whether an option may be found again. -/
def mayRepeat (l : Level ι) (id : ι) : Bool :=
  l.options.any fun o => o.id = id && o.kind = .repeatable

/-- Add a value of an option. -/
def store (l : Level ι) (found : List (ι × String)) (id : ι) (value : String) :
    Except UsageError (Scan ι) :=
  if (!l.mayRepeat id && found.any (·.1 = id)) then .error .repeated
  else match l.check id value with
    | .error e => .error e
    | .ok () => .ok { found := found ++ [(id, value)] }

/-- Complete the option that still may get its value. -/
def settle (l : Level ι) (s : Scan ι) : Except UsageError (Scan ι) :=
  match s.pending with
  | none => .ok s
  | some (_, none) => .error .noValue
  | some (id, some value) => l.store s.found id value

/-- An option with a value attached to it. -/
def attach (l : Level ι) (s : Scan ι) (id : ι) (value : String) : Except UsageError (Scan ι) := do
  let s ← l.settle s
  l.store s.found id value

/-- An option whose value may follow. -/
def expect (l : Level ι) (s : Scan ι) (id : ι) : Except UsageError (Scan ι) := do
  let s ← l.settle s
  return { s with pending := some (id, none) }

/-- An option without a value. -/
def mark (l : Level ι) (s : Scan ι) (o : OptionSpec ι) : Except UsageError (Scan ι) := do
  let s ← l.settle s
  match o.kind with
  | .help => .error .helpRequested
  | .version => .error .versionRequested
  | _ => l.store s.found o.id "true"

/-- An argument that begins with two dashes: a name, and perhaps a value after an equals sign. -/
def scanLong (l : Level ι) (s : Scan ι) (cs : List Char) : Except UsageError (Scan ι) :=
  let name := String.ofList (cs.takeWhile (· ≠ '='))
  match l.options.find? (·.long = name) with
  | none => .error .unknownArgument
  | some o =>
    match cs.dropWhile (· ≠ '=') with
    | [] => if o.kind.takesValue then l.expect s o.id else l.mark s o
    | _ :: value =>
      if o.kind.takesValue then l.attach s o.id (String.ofList value) else .error .unwantedValue

/-- Letters after one dash; the first that takes a value takes the rest. -/
def scanShort (l : Level ι) : Scan ι → List Char → Except UsageError (Scan ι)
  | s, [] => .ok s
  | s, c :: rest =>
    match l.options.find? (·.short = some c) with
    | none => .error .unknownArgument
    | some o =>
      if o.kind.takesValue then
        match rest with
        | [] => l.expect s o.id
        | '=' :: value => l.attach s o.id (String.ofList value)
        | value => l.attach s o.id (String.ofList value)
      else
        match l.mark s o with
        | .error e => .error e
        | .ok s => scanShort l s rest

/-- The error of an argument that is no option. -/
def strayError (l : Level ι) (trailing : Bool) (arg : String) : UsageError :=
  if l.subcommands.isEmpty then .unknownArgument
  else if trailing && l.subcommands.contains arg then .unknownArgument
  else .unknownSubcommand

/-- The options among arguments, up to a subcommand. After two dashes alone no option and no
subcommand follows. -/
def scanFrom (l : Level ι) : (trailing : Bool) → Scan ι → List String →
    Except UsageError (Scan ι × Option (String × List String))
  | _, s, [] => .ok (s, none)
  | true, _, arg :: _ => .error (l.strayError true arg)
  | false, s, arg :: rest =>
    if !s.awaitsValue && l.subcommands.contains arg then .ok (s, some (arg, rest))
    else match arg.toList with
      | ['-', '-'] => scanFrom l true s rest
      | '-' :: '-' :: name =>
        match l.scanLong s name with
        | .error e => .error e
        | .ok s => scanFrom l false s rest
      | '-' :: c :: letters =>
        match l.scanShort s (c :: letters) with
        | .error e => .error e
        | .ok s => scanFrom l false s rest
      | _ =>
        match s.pending with
        | some (id, none) => scanFrom l false { s with pending := some (id, some arg) } rest
        | _ => .error (l.strayError false arg)

/-- The options among arguments, up to a subcommand. -/
def scan (l : Level ι) (args : List String) :
    Except UsageError (Scan ι × Option (String × List String)) :=
  l.scanFrom false {} args

end Level

end NodeProvisioning.CommandLine
