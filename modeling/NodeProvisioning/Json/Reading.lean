import NodeProvisioning.Json.Value
import NodeProvisioning.Text.Hex

/-!
# Reading structured data from text

The grammar of RFC 8259, read strictly: no leading zeros, no bare controls in a string, no lone
surrogates, and no more than 127 values inside one another. An integer outside 64 bits is read as
the nearest binary number; one that is too large for that is refused.

## Main definitions

* `Json.read?` — the value of a text, if all of it is one value
-/

namespace NodeProvisioning.Json

/-- The four blanks of the grammar. -/
def isSpace (c : Char) : Bool := c = ' ' || c = '\t' || c = '\n' || c = '\r'

/-- The text after its leading blanks. -/
def skipSpace (cs : List Char) : List Char := cs.dropWhile isSpace

/-- Four hexadecimal digits as one UTF-16 unit. -/
def unit? : List Char → Option (Nat × List Char)
  | a :: b :: c :: d :: rest => do
    let a ← Text.hexValue? a
    let b ← Text.hexValue? b
    let c ← Text.hexValue? c
    let d ← Text.hexValue? d
    some (((a * 16 + b) * 16 + c) * 16 + d, rest)
  | _ => none

/-- The character of a unit, taking a second unit where the first opens a surrogate pair. -/
def escaped? (cs : List Char) : Option (Char × List Char) := do
  let (u, rest) ← unit? cs
  if 0xD800 ≤ u ∧ u < 0xDC00 then
    match rest with
    | '\\' :: 'u' :: rest =>
      let (v, rest) ← unit? rest
      if 0xDC00 ≤ v ∧ v < 0xE000 then
        some (Char.ofNat (0x10000 + (u - 0xD800) * 0x400 + (v - 0xDC00)), rest)
      else none
    | _ => none
  else if 0xDC00 ≤ u ∧ u < 0xE000 then none
  else some (Char.ofNat u, rest)

/-- The rest of a string after its opening quote; `acc` holds what was read, last first. -/
def readString : (fuel : Nat) → List Char → (acc : List Char) → Option (String × List Char)
  | 0, _, _ => none
  | fuel + 1, cs, acc =>
    match cs with
    | [] => none
    | '"' :: rest => some (String.ofList acc.reverse, rest)
    | '\\' :: '"' :: rest => readString fuel rest ('"' :: acc)
    | '\\' :: '\\' :: rest => readString fuel rest ('\\' :: acc)
    | '\\' :: '/' :: rest => readString fuel rest ('/' :: acc)
    | '\\' :: 'b' :: rest => readString fuel rest ('\x08' :: acc)
    | '\\' :: 'f' :: rest => readString fuel rest ('\x0c' :: acc)
    | '\\' :: 'n' :: rest => readString fuel rest ('\n' :: acc)
    | '\\' :: 'r' :: rest => readString fuel rest ('\r' :: acc)
    | '\\' :: 't' :: rest => readString fuel rest ('\t' :: acc)
    | '\\' :: 'u' :: rest =>
      match escaped? rest with
      | some (c, rest) => readString fuel rest (c :: acc)
      | none => none
    | '\\' :: _ => none
    | c :: rest => if c.toNat < 0x20 then none else readString fuel rest (c :: acc)

/-- The value of decimal digits. -/
def digitsValue (cs : List Char) : Nat := cs.foldl (fun n c => n * 10 + (c.toNat - 48)) 0

/-- A number of 64 bits where the text is an integer and fits, else the nearest binary one. -/
def number? (negative : Bool) (whole fraction : List Char) (scale : Option Int) : Option Number :=
  let n := digitsValue whole
  if fraction.isEmpty ∧ scale.isNone ∧ ¬ negative ∧ n < twoTo 64 then some (.integer n)
  else if fraction.isEmpty ∧ scale.isNone ∧ negative ∧ n ≠ 0 ∧ n ≤ twoTo 63 then
    some (.integer (-(n : Int)))
  else
    let exponent : Int := scale.getD 0 - fraction.length
    (Decimal.toBinary64? ⟨negative, digitsValue (whole ++ fraction), exponent⟩).map
      fun b => .float b.shortest

/-- The exponent after its letter. -/
def readExponent (cs : List Char) : Option (Int × List Char) :=
  let (negative, cs) := match cs with
    | '-' :: rest => (true, rest)
    | '+' :: rest => (false, rest)
    | _ => (false, cs)
  let digits := cs.takeWhile Char.isDigit
  if digits.isEmpty then none
  else
    let n : Int := digitsValue digits
    some (if negative then -n else n, cs.dropWhile Char.isDigit)

/-- A number at the head of a text. -/
def readNumber (cs : List Char) : Option (Number × List Char) := do
  let (negative, cs) := match cs with
    | '-' :: rest => (true, rest)
    | _ => (false, cs)
  let whole := cs.takeWhile Char.isDigit
  let rest := cs.dropWhile Char.isDigit
  if whole.isEmpty ∨ (whole.head? = some '0' ∧ whole.length ≠ 1) then none
  let (fraction, rest) ← match rest with
    | '.' :: tail =>
      let digits := tail.takeWhile Char.isDigit
      if digits.isEmpty then none else some (digits, tail.dropWhile Char.isDigit)
    | _ => some ([], rest)
  let (scale, rest) ← match rest with
    | 'e' :: tail => (readExponent tail).map fun (n, r) => (some n, r)
    | 'E' :: tail => (readExponent tail).map fun (n, r) => (some n, r)
    | _ => some (none, rest)
  (number? negative whole fraction scale).map (·, rest)

mutual

/-- A value at the head of a text, inside fewer than `depth` more sequences and objects. -/
def readValue : (fuel depth : Nat) → List Char → Option (Json × List Char)
  | 0, _, _ => none
  | fuel + 1, depth, cs =>
    match skipSpace cs with
    | 'n' :: 'u' :: 'l' :: 'l' :: rest => some (.null, rest)
    | 't' :: 'r' :: 'u' :: 'e' :: rest => some (.bool true, rest)
    | 'f' :: 'a' :: 'l' :: 's' :: 'e' :: rest => some (.bool false, rest)
    | '"' :: rest => (readString fuel rest []).map fun (s, r) => (.str s, r)
    | '[' :: rest =>
      if depth = 0 then none
      else match skipSpace rest with
        | ']' :: rest => some (.arr [], rest)
        | rest => (readItems fuel (depth - 1) rest []).map fun (l, r) => (.arr l, r)
    | '\x7b' :: rest =>
      if depth = 0 then none
      else match skipSpace rest with
        | '\x7d' :: rest => some (.obj [], rest)
        | rest => (readMembers fuel (depth - 1) rest []).map fun (l, r) => (.obj l, r)
    | cs => (readNumber cs).map fun (n, r) => (.num n, r)

/-- The items of a sequence up to its closing bracket. -/
def readItems : (fuel depth : Nat) → List Char → (acc : List Json) → Option (List Json × List Char)
  | 0, _, _, _ => none
  | fuel + 1, depth, cs, acc =>
    match readValue fuel depth cs with
    | none => none
    | some (v, rest) =>
      match skipSpace rest with
      | ',' :: rest => readItems fuel depth rest (v :: acc)
      | ']' :: rest => some ((v :: acc).reverse, rest)
      | _ => none

/-- The members of an object up to its closing brace. -/
def readMembers : (fuel depth : Nat) → List Char → (acc : List (String × Json)) →
    Option (List (String × Json) × List Char)
  | 0, _, _, _ => none
  | fuel + 1, depth, cs, acc =>
    match skipSpace cs with
    | '"' :: rest =>
      match readString fuel rest [] with
      | none => none
      | some (key, rest) =>
        match skipSpace rest with
        | ':' :: rest =>
          match readValue fuel depth rest with
          | none => none
          | some (v, rest) =>
            match skipSpace rest with
            | ',' :: rest => readMembers fuel depth rest ((key, v) :: acc)
            | '\x7d' :: rest => some (((key, v) :: acc).reverse, rest)
            | _ => none
        | _ => none
    | _ => none

end

/-- The value of a text that holds one value and blanks. -/
def read? (text : String) : Option Json :=
  let cs := text.toList
  match readValue (cs.length + 1) 127 cs with
  | some (v, rest) => if (skipSpace rest).isEmpty then some v else none
  | none => none

end NodeProvisioning.Json
