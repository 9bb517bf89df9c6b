import NodeProvisioning.Json.Value

/-!
# Encoding structured data

The members of an object from typed fields, where an absent field or an empty sequence leaves no
member behind.

## Main definitions

* `Json.present` — a member for a value that may be absent
* `Json.unlessEmpty` — a member for a sequence that is not empty
-/

namespace NodeProvisioning.Json

/-- The member of a value that may be absent. -/
def present {α : Type} (key : String) (encode : α → Json) : Option α → List (String × Json)
  | none => []
  | some a => [(key, encode a)]

/-- The member of a sequence, unless it is empty. -/
def unlessEmpty {α : Type} (key : String) (encode : α → Json) : List α → List (String × Json)
  | [] => []
  | l => [(key, .arr (l.map encode))]

/-- The member of a string, unless it is empty. -/
def unlessBlank (key : String) (s : String) : List (String × Json) :=
  if s = "" then [] else [(key, .str s)]

end NodeProvisioning.Json
