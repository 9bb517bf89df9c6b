import NodeProvisioning.Yaml.Resolution

/-!
# Written forms of a text

A text is written plain where it can be told apart from the marks of the format and from other
types; between single quotes otherwise; as a block of lines where it has several; and between double
quotes where it holds what can only be escaped.

## Main definitions

* `Yaml.Style`, `Yaml.style` — the form that a text is written in
* `Yaml.writeText` — a text in its form
* `Yaml.isSimpleKey` — whether a text can be a key on one line
-/

namespace NodeProvisioning.Yaml

/-! ## Classes of characters -/

/-- A character that ends a line. -/
def isBreak (c : Char) : Bool :=
  c = '\n' || c = '\r' || c = '\u0085' || c = '\u2028' || c = '\u2029'

/-- A character that may be written as it is. -/
def isShown (c : Char) : Bool :=
  c = '\n' || (' ' ≤ c && c ≤ '~') ||
    ('\u00a0' ≤ c && c ≠ '\ufeff' && c ≠ '\ufffe' && c ≠ '\uffff')

/-- A blank, or a line break. -/
def isGap (c : Char) : Bool := c = ' ' || c = '\t' || isBreak c

/-- A mark that means something at the start of a text. -/
def isLeadingMark (c : Char) : Bool :=
  ['#', ',', '[', ']', '\x7b', '\x7d', '&', '*', '!', '|', '>', '\'', '"', '%', '@',
    '\u0060'].contains c

/-! ## What a text contains -/

/-- Whether a character that satisfies `p` is followed by one that satisfies `q`. -/
def hasPair (p q : Char → Bool) : List Char → Bool
  | a :: b :: rest => (p a && q b) || hasPair p q (b :: rest)
  | _ => false

/-- Whether every character of a text is shown. -/
def isAllShown (cs : List Char) : Bool := cs.all isShown

/-- Whether a text has several lines. -/
def isMultiline (cs : List Char) : Bool := cs.any isBreak

/-- Whether a space stands before a line break. -/
def hasSpaceBreak (cs : List Char) : Bool := hasPair (· = ' ') isBreak cs

/-- Whether a space stands after a line break. -/
def hasBreakSpace (cs : List Char) : Bool := hasPair isBreak (· = ' ') cs

/-- Whether a text begins with the marks of a document. -/
def hasDocumentMark : List Char → Bool
  | '-' :: '-' :: '-' :: _ => true
  | '.' :: '.' :: '.' :: _ => true
  | _ => false

/-- Whether a text begins with a mark that means something there. -/
def hasLeadingMark : List Char → Bool
  | [] => false
  | c :: rest =>
    isLeadingMark c ||
      ((c = '-' || c = '?' || c = ':') && (match rest with
        | [] => true
        | d :: _ => isGap d))

/-- Whether a colon before a gap, or a number sign after one, stands inside a text. -/
def hasInnerMark (cs : List Char) : Bool :=
  hasPair (· = ':') isGap cs || cs.getLast? = some ':' || hasPair isGap (· = '#') cs

/-- Whether a text may be written without quotes. -/
def allowsPlain (cs : List Char) : Bool :=
  let outer (c : Option Char) : Bool := c.any fun c => c = ' ' || isBreak c
  !(cs.isEmpty || outer cs.head? || outer cs.getLast? || isMultiline cs || hasDocumentMark cs ||
    hasLeadingMark cs || hasInnerMark cs || !isAllShown cs)

/-- Whether a text may be written between single quotes. -/
def allowsSingle (cs : List Char) : Bool :=
  !(hasSpaceBreak cs || hasBreakSpace cs || !isAllShown cs)

/-- Whether a text may be written as a block of lines. -/
def allowsBlock (cs : List Char) : Bool :=
  !(cs.isEmpty || cs.getLast? = some ' ' || hasSpaceBreak cs || !isAllShown cs)

/-! ## Choosing the form -/

/-- The form that a text is written in. -/
inductive Style where
  | plain
  | single
  | double
  | block
deriving DecidableEq, Repr

/-- The form of a text; a key stays on one line. -/
def style (key : Bool) (s : String) : Style :=
  let cs := s.toList
  let quoted : Style := if allowsSingle cs then .single else .double
  if key && isMultiline cs then .double
  else if cs.contains '\n' then
    if allowsBlock cs && !key then .block else .double
  else if !readsAsText s then quoted
  else if allowsPlain cs then .plain
  else quoted

/-! ## Writing -/

/-- Blanks at the start of a line. -/
def margin (indent : Nat) : List Char := List.replicate indent ' '

/-- The lines of a text with a margin before each that is not empty; `fresh` tells that a line
begins. -/
def writeLines (indent : Nat) : (fresh : Bool) → List Char → List Char
  | _, [] => []
  | fresh, c :: rest =>
    if isBreak c then c :: writeLines indent true rest
    else (if fresh then margin indent else []) ++ c :: writeLines indent false rest

/-- What the bar of a block says about the text: its indentation, where the first line does not show
it, and whether the last line break is kept, missing, or one of several. -/
def blockHeader (cs : List Char) : List Char :=
  let indentation := if cs.head?.any fun c => c = ' ' || isBreak c then ['2'] else []
  let ending := match cs.reverse with
    | [] => ['-']
    | c :: before =>
      if !isBreak c then ['-']
      else match before with
        | [] => ['+']
        | d :: _ => if isBreak d then ['+'] else []
  '|' :: indentation ++ ending

/-- A character between single quotes. -/
def writeSingleChar (c : Char) : List Char := if c = '\'' then ['\'', '\''] else [c]

/-- A text between single quotes. -/
def writeSingle (indent : Nat) (cs : List Char) : List Char :=
  '\'' :: writeLines indent false (cs.flatMap writeSingleChar) ++ ['\'']

/-- The letter that stands for a character after a backslash. -/
def escapeLetter? (c : Char) : Option Char :=
  match c.toNat with
  | 0x00 => some '0'
  | 0x07 => some 'a'
  | 0x08 => some 'b'
  | 0x09 => some 't'
  | 0x0a => some 'n'
  | 0x0b => some 'v'
  | 0x0c => some 'f'
  | 0x0d => some 'r'
  | 0x1b => some 'e'
  | 0x22 => some '"'
  | 0x5c => some '\\'
  | 0x85 => some 'N'
  | 0x2028 => some 'L'
  | 0x2029 => some 'P'
  | _ => none

/-- A character between double quotes. -/
def writeDoubleChar (c : Char) : List Char :=
  match escapeLetter? c with
  | some letter => ['\\', letter]
  | none =>
    if isShown c then [c]
    else
      let digits (count : Nat) := (Text.hexFixed count c.toNat).map Char.toUpper
      if c.toNat < 0x100 then '\\' :: 'x' :: digits 2
      else if c.toNat < 0x10000 then '\\' :: 'u' :: digits 4
      else '\\' :: 'U' :: digits 8

/-- A text between double quotes. -/
def writeDouble (cs : List Char) : List Char := '"' :: cs.flatMap writeDoubleChar ++ ['"']

/-- A text in its form; lines after the first have the margin. -/
def writeText (key : Bool) (indent : Nat) (s : String) : List Char :=
  match style key s with
  | .plain => s.toList
  | .single => writeSingle indent s.toList
  | .double => writeDouble s.toList
  | .block => blockHeader s.toList ++ '\n' :: writeLines indent true s.toList

/-- Whether a text can be a key on one line: it has one line of at most 128 bytes. -/
def isSimpleKey (s : String) : Bool := !isMultiline s.toList && s.utf8ByteSize ≤ 128

end NodeProvisioning.Yaml
