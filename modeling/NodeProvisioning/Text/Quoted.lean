import NodeProvisioning.Text.Combining
import NodeProvisioning.Text.Hex
import NodeProvisioning.Text.Unprintable

/-!
# Quoted text

A text shown between double quotes so that every character of it can be told apart: quotes,
backslashes and the common controls after a backslash, and what would not show, or would join its
neighbour, by its code point.

## Main definitions

* `Text.quoteChar` — the written form of one character
* `Text.quoted` — the written form of a text
-/

namespace NodeProvisioning.Text

/-- The written form of one character inside double quotes. -/
def quoteChar (c : Char) : List Char :=
  if c = '"' then ['\\', '"']
  else if c = '\\' then ['\\', '\\']
  else if c = '\n' then ['\\', 'n']
  else if c = '\r' then ['\\', 'r']
  else if c = '\t' then ['\\', 't']
  else if c = '\x00' then ['\\', '0']
  else if isCombining c || isUnprintable c then
    ['\\', 'u', '\x7b'] ++ hex c.toNat ++ ['\x7d']
  else [c]

/-- A text between double quotes. -/
def quoted (s : String) : String :=
  String.ofList ('"' :: s.toList.flatMap quoteChar ++ ['"'])

end NodeProvisioning.Text
