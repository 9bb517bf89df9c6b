import NodeProvisioning.Json.Writing
import NodeProvisioning.Yaml.Scalar

/-!
# Documents in block style

One member or item a line, two blanks a level, and the items of a sequence no deeper than their key.

## Main definitions

* `Yaml.write` — a value as a document
-/

namespace NodeProvisioning.Yaml

/-- The characters with a line break at the end, unless they end with one. -/
def endLine (cs : List Char) : List Char :=
  if cs.getLast?.any isBreak then cs else cs ++ ['\n']

/-- The text of a value that has no parts. -/
def writeScalar (indent : Nat) : Json → List Char
  | .str s => writeText false indent s
  | v => v.write.toList

/-- A key up to its colon: on the line, or marked where it does not fit there. -/
def writeKey (indent : Nat) (k : String) : List Char :=
  if isSimpleKey k then writeText true (indent + 2) k ++ [':']
  else '?' :: ' ' :: endLine (writeText false (indent + 2) k) ++ margin indent ++ [':']

mutual

/-- What follows a key and its colon, inside a mapping at `indent`. -/
def writeMemberValue (indent : Nat) : Json → List Char
  | .arr items =>
    if items.isEmpty then [' ', '[', ']', '\n']
    else '\n' :: margin indent ++ writeItems indent items
  | .obj members =>
    if members.isEmpty then [' ', '\x7b', '\x7d', '\n']
    else '\n' :: margin (indent + 2) ++ writeMembers (indent + 2) members
  | v => ' ' :: endLine (writeScalar (indent + 2) v)

/-- What follows the dash of an item, inside a sequence at `indent`. -/
def writeItemValue (indent : Nat) : Json → List Char
  | .arr items => if items.isEmpty then ['[', ']', '\n'] else writeItems (indent + 2) items
  | .obj members =>
    if members.isEmpty then ['\x7b', '\x7d', '\n'] else writeMembers (indent + 2) members
  | v => endLine (writeScalar (indent + 2) v)

/-- The items of a sequence; the margin of the first is already there. -/
def writeItems (indent : Nat) : List Json → List Char
  | [] => []
  | [v] => '-' :: ' ' :: writeItemValue indent v
  | v :: w :: rest =>
    '-' :: ' ' :: writeItemValue indent v ++ margin indent ++ writeItems indent (w :: rest)

/-- The members of a mapping; the margin of the first is already there. -/
def writeMembers (indent : Nat) : List (String × Json) → List Char
  | [] => []
  | [(k, v)] => writeKey indent k ++ writeMemberValue indent v
  | (k, v) :: m :: rest =>
    writeKey indent k ++ writeMemberValue indent v ++ margin indent ++
      writeMembers indent (m :: rest)

end

/-- A value as a document. -/
def write : Json → String
  | .obj members =>
    String.ofList (if members.isEmpty then ['\x7b', '\x7d', '\n'] else writeMembers 0 members)
  | v => String.ofList (writeItemValue 0 v)

end NodeProvisioning.Yaml
