import NodeProvisioning.Json.Value
import NodeProvisioning.Text.Hex

/-!
# Writing structured data as text

One line without blanks. In a string the quote, the backslash and the controls are written after a
backslash; a second form writes every character above ASCII by its UTF-16 units as well.

## Main definitions

* `Json.write` — the compact text
* `Json.writeAscii` — the compact text in ASCII
-/

namespace NodeProvisioning.Json

/-- A UTF-16 unit after a backslash. -/
def writeUnit (u : Nat) : List Char := '\\' :: 'u' :: Text.hexFixed 4 u

/-- A character inside a string. -/
def writeChar (ascii : Bool) (c : Char) : List Char :=
  if c = '"' then ['\\', '"']
  else if c = '\\' then ['\\', '\\']
  else if c = '\x08' then ['\\', 'b']
  else if c = '\x0c' then ['\\', 'f']
  else if c = '\n' then ['\\', 'n']
  else if c = '\r' then ['\\', 'r']
  else if c = '\t' then ['\\', 't']
  else if c.toNat < 0x20 then writeUnit c.toNat
  else if ascii && 0x7f ≤ c.toNat then
    if c.toNat < 0x10000 then writeUnit c.toNat
    else
      let n := c.toNat - 0x10000
      writeUnit (0xD800 + n / 0x400) ++ writeUnit (0xDC00 + n % 0x400)
  else [c]

/-- A string in quotes. -/
def writeString (ascii : Bool) (s : String) : List Char :=
  '"' :: s.toList.flatMap (writeChar ascii) ++ ['"']

/-- The text of a number. -/
def writeNumber : Number → List Char
  | .integer n => if n < 0 then '-' :: decimalDigits n.natAbs else decimalDigits n.natAbs
  | .float d => d.text.toList

mutual

/-- The characters of a value. -/
def writeValue (ascii : Bool) : Json → List Char
  | .null => ['n', 'u', 'l', 'l']
  | .bool true => ['t', 'r', 'u', 'e']
  | .bool false => ['f', 'a', 'l', 's', 'e']
  | .num n => writeNumber n
  | .str s => writeString ascii s
  | .arr items => '[' :: writeItems ascii items ++ [']']
  | .obj members => '\x7b' :: writeMembers ascii members ++ ['\x7d']

/-- The items of a sequence, with commas between them. -/
def writeItems (ascii : Bool) : List Json → List Char
  | [] => []
  | [v] => writeValue ascii v
  | v :: w :: rest => writeValue ascii v ++ ',' :: writeItems ascii (w :: rest)

/-- The members of an object, with commas between them. -/
def writeMembers (ascii : Bool) : List (String × Json) → List Char
  | [] => []
  | [(k, v)] => writeString ascii k ++ ':' :: writeValue ascii v
  | (k, v) :: m :: rest =>
    writeString ascii k ++ ':' :: writeValue ascii v ++ ',' :: writeMembers ascii (m :: rest)

end

/-- The compact text of a value. -/
def write (v : Json) : String := String.ofList (writeValue false v)

/-- The compact text of a value in ASCII. -/
def writeAscii (v : Json) : String := String.ofList (writeValue true v)

end NodeProvisioning.Json
