import NodeProvisioning.CommandError
import NodeProvisioning.Text.Blank
import NodeProvisioning.Time.Duration

/-!
# Values on the command line

Durations with an optional unit, labels, and counts.

## Main definitions

* `CommandLine.natural?` — digits below `2 ^ 64`, with an optional plus
* `CommandLine.duration` — digits and at most one of `h`, `m`, `s`
* `CommandLine.pollInterval` — a duration that is not zero
* `CommandLine.label` — a key that is not empty, an equals sign, and a value
* `CommandLine.count` — a number of nodes
-/

namespace NodeProvisioning.CommandLine

/-- The value of decimal digits, at least one of them. -/
def digits? (cs : List Char) : Option Nat :=
  if cs.isEmpty ∨ !cs.all Char.isDigit then none
  else some (cs.foldl (fun n c => n * 10 + (c.toNat - 48)) 0)

/-- A number below `2 ^ 64` in digits, with an optional plus. -/
def natural? (cs : List Char) : Option Nat :=
  let digits := match cs with
    | '+' :: rest => rest
    | cs => cs
  match digits? digits with
  | some n => if n < twoTo 64 then some n else none
  | none => none

/-- A text without its unit, and the seconds in that unit; without a unit, one second. -/
def splitUnit (cs : List Char) : List Char × Nat :=
  match cs.getLast? with
  | some 'h' => (cs.dropLast, 3600)
  | some 'm' => (cs.dropLast, 60)
  | some 's' => (cs.dropLast, 1)
  | _ => (cs, 1)

/-- The whole seconds that a text without outer blanks names, if they are below `2 ^ 64`. -/
def seconds? (cs : List Char) : Option Nat :=
  let (number, scale) := splitUnit cs
  match natural? number with
  | some n => if n * scale < twoTo 64 then some (n * scale) else none
  | none => none

/-- A duration of whole seconds: a number and at most one unit, between blanks. -/
def duration (s : String) : Except CommandError Duration :=
  let trimmed := Text.trim s
  match seconds? trimmed.toList with
  | some n => .ok (.ofSeconds n)
  | none => .error (.invalid
      ("invalid duration '" ++ trimmed ++ "', expected e.g. 1h, 15m, 30s"))

/-- A duration that is not zero. -/
def pollInterval (s : String) : Except CommandError Duration :=
  match duration s with
  | .error e => .error e
  | .ok d =>
    if d.isZero then .error (.invalid "poll interval must be greater than zero") else .ok d

/-- A label: the text before the first equals sign, which is not empty, and the text after it. -/
def label (s : String) : Except CommandError (String × String) :=
  let cs := s.toList
  let key := cs.takeWhile (· ≠ '=')
  match key, cs.dropWhile (· ≠ '=') with
  | c :: more, _ :: value => .ok (String.ofList (c :: more), String.ofList value)
  | _, _ => .error (.invalid ("invalid label '" ++ s ++ "', expected key=value"))

/-- Why a text is not a count. -/
inductive CountError where
  | empty
  | invalidDigit
  | tooLarge
  | tooSmall
  | outOfRange (n : Int)
deriving DecidableEq, Repr

/-- The wording of a count that is none. -/
def CountError.message : CountError → String
  | .empty => "cannot parse integer from empty string"
  | .invalidDigit => "invalid digit found in string"
  | .tooLarge => "number too large to fit in target type"
  | .tooSmall => "number too small to fit in target type"
  | .outOfRange n => toString n ++ " is not in 0..=4294967295"

/-- The size of an integer, read digit by digit: it is too large as soon as it passes the limit, and
then nothing after that is looked at. -/
def sizeUpTo (limit : Nat) (tooMuch : CountError) (cs : List Char) : Except CountError Nat :=
  let digits := cs.takeWhile Char.isDigit
  let size := digits.foldl (fun n c => n * 10 + (c.toNat - 48)) 0
  if limit < size then .error tooMuch
  else if digits.length ≠ cs.length ∨ cs.isEmpty then .error .invalidDigit
  else .ok size

/-- An integer of 64 bits. -/
def integer (s : String) : Except CountError Int :=
  match s.toList with
  | [] => .error .empty
  | '-' :: rest => (sizeUpTo (twoTo 63) .tooSmall rest).map fun n => -(n : Int)
  | '+' :: rest => (sizeUpTo (twoTo 63 - 1) .tooLarge rest).map fun n => (n : Int)
  | cs => (sizeUpTo (twoTo 63 - 1) .tooLarge cs).map fun n => (n : Int)

/-- A number of nodes: an integer from zero to below `2 ^ 32`. -/
def count (s : String) : Except CountError Nat :=
  match integer s with
  | .error e => .error e
  | .ok n => if 0 ≤ n ∧ n < (twoTo 32 : Nat) then .ok n.toNat else .error (.outOfRange n)

end NodeProvisioning.CommandLine
