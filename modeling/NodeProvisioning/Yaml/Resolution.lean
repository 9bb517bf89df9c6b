import NodeProvisioning.Decimal.Binary64
import NodeProvisioning.Text.Hex

/-!
# What a plain scalar stands for

Whether a text that is written without quotes would be read as something other than a text.

## Main definitions

* `Yaml.isNull`, `Yaml.isBool`, `Yaml.isInteger`, `Yaml.isFloat` — what a text can be read as
* `Yaml.isPaddedNumber` — digits behind a zero, which some readers take for a number
* `Yaml.readsAsText` — none of these
-/

namespace NodeProvisioning.Yaml

/-- The spellings of null. -/
def isNull (s : String) : Bool := ["", "~", "null", "Null", "NULL"].contains s

/-- The spellings of truth values. -/
def isBool (s : String) : Bool := ["true", "True", "TRUE", "false", "False", "FALSE"].contains s

/-- A text without one sign in front. -/
def unsigned : List Char → List Char
  | '+' :: rest => rest
  | '-' :: rest => rest
  | cs => cs

/-- Digits behind a zero, with or without a sign. -/
def isPaddedNumber (cs : List Char) : Bool :=
  match unsigned cs with
  | '0' :: d :: rest => (d :: rest).all Char.isDigit
  | _ => false

/-- The value of digits of a base, at least one of them. -/
def digitsIn? (base : Nat) (cs : List Char) : Option Nat :=
  if cs.isEmpty then none
  else cs.foldl (fun acc c => do
    let n ← acc
    let d ← Text.hexValue? c
    if d < base then some (n * base + d) else none) (some 0)

/-- The size of an integer without its sign: after a mark of the base, or decimal. -/
def magnitude? : List Char → Option Nat
  | '0' :: 'x' :: rest => digitsIn? 16 rest
  | '0' :: 'o' :: rest => digitsIn? 8 rest
  | '0' :: 'b' :: rest => digitsIn? 2 rest
  | cs => digitsIn? 10 cs

/-- An integer of at most 128 bits. -/
def isInteger (cs : List Char) : Bool :=
  if isPaddedNumber cs then false
  else match cs with
    | '-' :: rest => (magnitude? rest).any (· ≤ twoTo 127)
    | _ => (magnitude? (unsigned cs)).any (· < twoTo 128)

/-- The exponent of a number after its letter, with digits only behind an optional sign. -/
def exponent? (cs : List Char) : Option Int :=
  let digits := unsigned cs
  match digitsIn? 10 digits with
  | none => none
  | some n => some (if cs.head? = some '-' then -(n : Int) else n)

/-- A decimal without its sign: digits with at most one point among them, and an exponent. -/
def decimal? (cs : List Char) : Option Decimal :=
  let isMark (c : Char) : Bool := c = 'e' || c = 'E'
  let number := cs.takeWhile (!isMark ·)
  let whole := number.takeWhile (· ≠ '.')
  let fraction := (number.dropWhile (· ≠ '.')).drop 1
  match digitsIn? 10 (whole ++ fraction) with
  | none => none
  | some digits =>
    match cs.dropWhile (!isMark ·) with
    | [] => some ⟨false, digits, -(fraction.length : Int)⟩
    | _ :: scale => (exponent? scale).map fun e => ⟨false, digits, e - fraction.length⟩

/-- The spellings of infinity without a sign. -/
def infinities : List String := [".inf", ".Inf", ".INF"]

/-- The spellings of what is not a number. -/
def notNumbers : List String := [".nan", ".NaN", ".NAN"]

/-- A finite number, infinity, or not a number. -/
def isFloat (cs : List Char) : Bool :=
  let size := unsigned cs
  if infinities.contains (String.ofList size) then true
  else if notNumbers.contains (String.ofList cs) then true
  else match decimal? size with
    | some d => d.toBinary64?.isSome
    | none => false

/-- Whether a text written without quotes is read as that text. -/
def readsAsText (s : String) : Bool :=
  !(isNull s || isBool s || isInteger s.toList || isPaddedNumber s.toList || isFloat s.toList)

end NodeProvisioning.Yaml
