import NodeProvisioning.Yaml.Resolution

/-!
# Nodes

The values of a document as read: a text without quotes may be read as something else.

## Main definitions

* `Yaml.Node` — a value
* `Yaml.Node.ofPlain` — what a text without quotes is read as
-/

namespace NodeProvisioning.Yaml

/-- A value of a document. -/
inductive Node where
  | null
  | bool (value : Bool)
  /-- A number, as it was written. -/
  | number (text : String)
  | text (s : String)
  | sequence (items : List Node)
  | mapping (members : List (String × Node))

namespace Node

instance : Inhabited Node := ⟨.null⟩

/-- What a text without quotes is read as. Digits behind a zero are a text. -/
def ofPlain (s : String) : Node :=
  if isNull s then .null
  else if isBool s then .bool (s.toList.length = 4)
  else if isPaddedNumber s.toList then .text s
  else if readsAsText s then .text s
  else .number s

/-- A text that is written without quotes is read as that text. -/
theorem ofPlain_of_readsAsText {s : String} (h : readsAsText s) : ofPlain s = .text s := by
  simp_all [readsAsText, ofPlain]

/-- The value of a key. -/
def member? (n : Node) (key : String) : Option Node :=
  match n with
  | .mapping members => (members.find? (·.1 == key)).map (·.2)
  | _ => none

/-- The text, where the value is one. -/
def text? : Node → Option String
  | .text s => some s
  | _ => none

/-- The items of a sequence, none of any other value. -/
def items : Node → List Node
  | .sequence l => l
  | _ => []

end Node

end NodeProvisioning.Yaml
