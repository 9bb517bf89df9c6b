import NodeProvisioning.Json.Value
import NodeProvisioning.Text.Quoted

/-!
# Decoding structured data

Typed values out of `Json`, with an error that says what was found and what was expected. Of several
faults in a record the one at the least key is reported; a missing field is noticed only when every
field that is there has been read.

## Main definitions

* `DecodeError` — why a value was refused, and its wording `DecodeError.message`
* `Decoder` — a function that reads a typed value
* `Json.record` — the fields of a record, by name or by position
-/

namespace NodeProvisioning

/-- Why a value was refused. -/
inductive DecodeError where
  /-- A field without a default is not there. -/
  | missingField (field : String)
  /-- A field is there twice. -/
  | repeatedField (field : String)
  /-- A value of another type was expected. -/
  | mistyped (found : Json) (expected : String)
  /-- A value of the right type is outside what is allowed. -/
  | outOfRange (found : Json) (expected : String)
  /-- A name is not one of a closed list. -/
  | unknownVariant (name : String) (known : List String)
  /-- A record given by position does not have as many values as it has fields. -/
  | wrongLength (length : Nat) (expected : String)
  /-- The text of a value does not have the form that it needs. -/
  | malformed (reason : String)

/-- A function that reads a typed value. -/
abbrev Decoder (α : Type) := Json → Except DecodeError α

namespace Json

/-- What a value is, in the words of an error. -/
def describe : Json → String
  | .null => "null"
  | .bool b => "boolean `" ++ (if b then "true" else "false") ++ "`"
  | .num (.integer n) => "integer `" ++ toString n ++ "`"
  | .num (.float d) => "floating point `" ++ d.text ++ "`"
  | .str s => "string " ++ Text.quoted s
  | .arr _ => "sequence"
  | .obj _ => "map"

end Json

/-- A choice of names in the words of an error. -/
def describeChoice (known : List String) : String :=
  let ticked := known.map fun k => "`" ++ k ++ "`"
  match ticked with
  | [] => "there are no variants"
  | [a] => "expected " ++ a
  | [a, b] => "expected " ++ a ++ " or " ++ b
  | l => "expected one of " ++ ", ".intercalate l

/-- The wording of an error. -/
def DecodeError.message : DecodeError → String
  | .missingField f => "missing field `" ++ f ++ "`"
  | .repeatedField f => "duplicate field `" ++ f ++ "`"
  | .mistyped v expected => "invalid type: " ++ v.describe ++ ", expected " ++ expected
  | .outOfRange v expected => "invalid value: " ++ v.describe ++ ", expected " ++ expected
  | .unknownVariant name known => "unknown variant `" ++ name ++ "`, " ++ describeChoice known
  | .wrongLength n expected => "invalid length " ++ toString n ++ ", expected " ++ expected
  | .malformed reason => reason

namespace Decoder

/-- Any value, in canonical form. -/
def any : Decoder Json := fun v => .ok v.canonical

/-- A string. -/
def string : Decoder String
  | .str s => .ok s
  | v => .error (.mistyped v "a string")

/-- A truth value. -/
def bool : Decoder Bool
  | .bool b => .ok b
  | v => .error (.mistyped v "a boolean")

/-- An integer from `lo` up to but not including `hi`, of the type called `name`. -/
def integer (name : String) (lo hi : Int) : Decoder Int
  | .num (.integer n) =>
    if lo ≤ n ∧ n < hi then .ok n else .error (.outOfRange (.num (.integer n)) name)
  | v => .error (.mistyped v name)

/-- A natural number below `2 ^ bits`. -/
def natural (bits : Nat) : Decoder Nat := fun v =>
  (integer ("u" ++ toString bits) 0 (twoTo bits : Nat) v).map Int.toNat

/-- An integer of 64 bits. -/
def int64 : Decoder Int := integer "i64" (-(twoTo 63 : Nat)) (twoTo 63 : Nat)

/-- Nothing but null. -/
def unit : Decoder Unit
  | .null => .ok ()
  | v => .error (.mistyped v "unit")

/-- Null, or a value. -/
def nullable {α : Type} (d : Decoder α) : Decoder (Option α)
  | .null => .ok none
  | v => (d v).map some

/-- The items of a sequence, first to last. -/
def items {α : Type} (d : Decoder α) : List Json → Except DecodeError (List α)
  | [] => .ok []
  | v :: rest => do
    let a ← d v
    let l ← items d rest
    .ok (a :: l)

/-- A sequence. -/
def list {α : Type} (d : Decoder α) : Decoder (List α)
  | .arr l => items d l
  | v => .error (.mistyped v "a sequence")

/-- The members of an object, in the order given. -/
def members {α : Type} (d : Decoder α) :
    List (String × Json) → Except DecodeError (List (String × α))
  | [] => .ok []
  | (k, v) :: rest => do
    let a ← d v
    let l ← members d rest
    .ok ((k, a) :: l)

/-- An object read as a map; of equal keys the last one counts. -/
def map {α : Type} (d : Decoder α) : Decoder (SortedMap String α)
  | .obj l => (members d l).map SortedMap.ofList
  | v => .error (.mistyped v "a map")

/-- One of a closed list of names, alone or as the only key of an object with the value null. -/
def oneOf {α : Type} (known : List (String × α)) : Decoder α := fun v =>
  let find (name : String) : Except DecodeError α :=
    match known.find? (fun e => e.1 == name) with
    | some e => .ok e.2
    | none => .error (.unknownVariant name (known.map (·.1)))
  match v with
  | .str name => find name
  | .obj [(name, content)] => do
    let a ← find name
    unit content
    .ok a
  | .obj l => .error (.outOfRange (.obj l) "map with a single key")
  | v => .error (.mistyped v "string or map")

end Decoder

/-- The fields of a record as they were given. -/
structure Fields where
  /-- The fields that are there. -/
  members : List (String × Json)
  /-- The error for one that is not. -/
  missing : String → DecodeError

namespace Fields

/-- Read a field that may be absent. -/
def optional {α : Type} (fs : Fields) (name : String) (d : Decoder α) :
    Except DecodeError (Option α) :=
  match Json.lookup name fs.members with
  | none => .ok none
  | some v => (d v).map some

/-- Read a field that may be absent, or null, which counts as absent. -/
def nullable {α : Type} (fs : Fields) (name : String) (d : Decoder α) :
    Except DecodeError (Option α) :=
  match Json.lookup name fs.members with
  | none => .ok none
  | some v => Decoder.nullable d v

/-- The value of a field, which must be there. -/
def need {α : Type} (fs : Fields) (name : String) : Option α → Except DecodeError α
  | some a => .ok a
  | none => .error (fs.missing name)

end Fields

namespace Json

/-- The fields of a record with the declared names: by name, none of them twice, or by position. -/
def record (expected : String) (declared : List String) : Json → Except DecodeError Fields
  | .obj l =>
    match declared.find? (fun f => 1 < l.countP (fun m => m.1 == f)) with
    | some f => .error (.repeatedField f)
    | none => .ok ⟨l, .missingField⟩
  | .arr l =>
    let plural := if declared.length = 1 then " element" else " elements"
    if declared.length < l.length then .error (.wrongLength l.length "fewer elements in array")
    else .ok ⟨declared.zip l, fun f =>
      .wrongLength (declared.idxOf f) (expected ++ " with " ++ toString declared.length ++ plural)⟩
  | v => .error (.mistyped v expected)

/-- The fields of a record that is an object; of a repeated field the last one counts. -/
def openRecord (expected : String) : Json → Except DecodeError Fields
  | .obj l => .ok ⟨l, .missingField⟩
  | v => .error (.mistyped v expected)

end Json

end NodeProvisioning
