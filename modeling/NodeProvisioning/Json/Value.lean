import NodeProvisioning.Decimal.Binary64
import NodeProvisioning.SortedMap

/-!
# Values of structured data

Null, booleans, numbers, strings, sequences and objects. A number stays an integer as long as it
fits into 64 bits; an object keeps its members in the order in which they were written.

## Main definitions

* `Json` — a value
* `Json.canonical` — every object sorted by key, of equal keys the last one kept
* `Json.member?` — the value of a key
-/

namespace NodeProvisioning

/-- A number: an integer of at most 64 bits, or a binary number in its shortest decimal form. -/
inductive Number where
  | integer (value : Int)
  | float (value : Decimal)
deriving DecidableEq, Repr

/-- A value of structured data. -/
inductive Json where
  | null
  | bool (value : Bool)
  | num (value : Number)
  | str (value : String)
  | arr (items : List Json)
  | obj (members : List (String × Json))
deriving Repr

namespace Json

instance : Inhabited Json := ⟨.null⟩

/-- A natural number. -/
def nat (n : Nat) : Json := .num (.integer n)

/-- A list of strings. -/
def strs (l : List String) : Json := .arr (l.map .str)

/-- A map of strings to strings, in key order. -/
def ofStringMap (m : SortedMap String String) : Json :=
  .obj (m.entries.map fun e => (e.1, .str e.2))

mutual

/-- Every object of a value sorted by key, of equal keys the last one kept. -/
def canonical : Json → Json
  | .arr items => .arr (canonicalItems items)
  | .obj members => .obj (SortedMap.ofList (canonicalMembers members)).entries
  | v => v

/-- Every item in canonical form. -/
def canonicalItems : List Json → List Json
  | [] => []
  | v :: rest => canonical v :: canonicalItems rest

/-- Every member in canonical form. -/
def canonicalMembers : List (String × Json) → List (String × Json)
  | [] => []
  | (k, v) :: rest => (k, canonical v) :: canonicalMembers rest

end

/-- The value of a key among members; of several the last. -/
def lookup (key : String) (members : List (String × Json)) : Option Json :=
  (members.reverse.find? (fun m => m.1 == key)).map (·.2)

/-- The value of a key in an object. -/
def member? (v : Json) (key : String) : Option Json :=
  match v with
  | .obj members => lookup key members
  | _ => none

end Json

end NodeProvisioning
