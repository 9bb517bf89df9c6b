import NodeProvisioning.Text.CodePoints

/-!
# Blank characters

White space in the sense of the Unicode property White_Space, which includes NEL, the no-break space
and the ideographic space, but neither the zero-width space nor the byte order mark.

## Main definitions

* `Text.isBlank` — membership in that class
* `Text.trimStart`, `Text.trim` — a text without its outer white space
-/

namespace NodeProvisioning.Text

/-- The code points with the property White_Space. -/
def blankRanges : CodePoints := [
  (0x9, 0xd), (0x20, 0x20), (0x85, 0x85), (0xa0, 0xa0), (0x1680, 0x1680), (0x2000, 0x200a),
  (0x2028, 0x2029), (0x202f, 0x202f), (0x205f, 0x205f), (0x3000, 0x3000)]

/-- Whether a character is white space. -/
def isBlank (c : Char) : Bool := blankRanges.contains c

/-- The characters from the first that is not white space on. -/
def trimStart (cs : List Char) : List Char := cs.dropWhile isBlank

/-- The characters up to the last that is not white space. -/
def trimEnd (cs : List Char) : List Char := (cs.reverse.dropWhile isBlank).reverse

/-- A text without the white space at either end. -/
def trim (s : String) : String := String.ofList (trimEnd (trimStart s.toList))

end NodeProvisioning.Text
