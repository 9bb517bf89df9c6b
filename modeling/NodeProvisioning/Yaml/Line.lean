import NodeProvisioning.Yaml.Scalar

/-!
# Lines of a document

A stream of documents is read line by line. The margin of a line tells which value it belongs to.

## Main definitions

* `Yaml.Line` — a line without its margin
* `Yaml.documents` — the lines of each document of a stream
* `Yaml.readBlock` — the text under a header, line breaks kept or folded
-/

namespace NodeProvisioning.Yaml

/-- A line without its margin. -/
structure Line where
  /-- How many spaces the margin has. -/
  indent : Nat
  text : List Char

/-- A space or a tab. -/
def isSpacing (c : Char) : Bool := c = ' ' || c = '\t'

/-- Whether nothing, or a space or a tab, comes next. -/
def atGap (cs : List Char) : Bool := cs.head?.all isSpacing

/-- Whether a line ends here, but for spaces and a comment behind a space. -/
def atEnd (cs : List Char) : Bool :=
  match cs.dropWhile isSpacing with
  | [] => true
  | '#' :: _ => cs.head?.all isSpacing
  | _ => false

namespace Line

/-- A line as written. -/
def of (cs : List Char) : Line :=
  ⟨(cs.takeWhile (· = ' ')).length, cs.dropWhile (· = ' ')⟩

/-- Whether nothing but a comment stands on a line. -/
def isVoid (l : Line) : Bool :=
  match l.text with
  | [] => true
  | '#' :: _ => true
  | _ => false

/-- Whether an item of a sequence begins a line. -/
def isItem (l : Line) : Bool :=
  match l.text with
  | '-' :: rest => atGap rest
  | _ => false

end Line

/-- The lines from the first on which something stands. -/
def skipVoid (lines : List Line) : List Line := lines.dropWhile Line.isVoid

/-! ## Documents -/

/-- A text with every line break a line feed. -/
def plainBreaks : List Char → List Char
  | [] => []
  | '\r' :: '\n' :: rest => '\n' :: plainBreaks rest
  | '\r' :: rest => '\n' :: plainBreaks rest
  | c :: rest => c :: plainBreaks rest

/-- The lines of a text without their line feeds. -/
def splitLines : List Char → List (List Char)
  | [] => []
  | '\n' :: rest => [] :: splitLines rest
  | c :: rest =>
    match splitLines rest with
    | [] => [[c]]
    | line :: lines => (c :: line) :: lines

/-- The documents from some lines on; `current` holds the lines of the document that has begun, the
last one first. -/
def gather : (current : Option (List Line)) → List (List Char) → List (List Line)
  | none, [] => []
  | some lines, [] => [lines.reverse]
  | current, cs :: rest =>
    match cs with
    | '-' :: '-' :: '-' :: more =>
      if atGap more then
        (current.map List.reverse).toList ++ gather (some [⟨3 + (more.takeWhile isSpacing).length,
          more.dropWhile isSpacing⟩]) rest
      else gather (some (Line.of cs :: current.getD [])) rest
    | '.' :: '.' :: '.' :: more =>
      if atEnd more then (current.map List.reverse).toList ++ gather none rest
      else gather (some (Line.of cs :: current.getD [])) rest
    | cs =>
      let line := Line.of cs
      match current with
      | some lines => gather (some (line :: lines)) rest
      | none =>
        if line.isVoid || cs.head? = some '%' then gather none rest else gather (some [line]) rest

/-- The lines of each document of a stream; a stream of nothing has one document of no lines. -/
def documents (text : String) : List (List Line) :=
  match gather none (splitLines (plainBreaks text.toList)) with
  | [] => [[]]
  | l => l

/-! ## Texts under a header -/

/-- What becomes of the line breaks at the end of a text under a header. -/
inductive Chomping where
  | clip
  | strip
  | keep
deriving DecidableEq, Repr

/-- A header without its mark: how the text ends, and its margin where that is given. -/
def blockHeader? : List Char → Option (Chomping × Option Nat)
  | '+' :: rest => (blockHeader? rest).map fun h => (.keep, h.2)
  | '-' :: rest => (blockHeader? rest).map fun h => (.strip, h.2)
  | c :: rest =>
    if '1' ≤ c ∧ c ≤ '9' then (blockHeader? rest).map fun h => (h.1, some (c.toNat - 48))
    else if atEnd (c :: rest) then some (.clip, none) else none
  | [] => some (.clip, none)

/-- Whether a line of a text under a header joins its neighbours. -/
def folds (cs : List Char) : Bool := !cs.isEmpty && !atGap cs

/-- Lines as one text. Where breaks are folded, one between two lines that join is a space, and of
more than one the first is left out. -/
def joinLines (folded : Bool) : List (List Char) → List Char
  | [] => []
  | [line] => line
  | line :: next :: rest =>
    let more := joinLines folded (next :: rest)
    if folded && folds line then
      if folds next then line ++ ' ' :: more
      else if next.isEmpty && (rest.find? (!·.isEmpty)).any folds then line ++ more
      else line ++ '\n' :: more
    else line ++ '\n' :: more

/-- The text under a header, and the lines after it. -/
def readBlock (folded : Bool) (least : Nat) (header : List Char) (lines : List Line) :
    Option (String × List Line) := do
  let (chomping, given) ← blockHeader? header
  let found := ((lines.find? fun l => !l.text.isEmpty).map Line.indent).getD 0
  let margin := max 1 (match given with
    | some n => least - 1 + n
    | none => max found least)
  let within (l : Line) : Bool := l.text.isEmpty || margin ≤ l.indent
  let shown (l : Line) : List Char := List.replicate (l.indent - margin) ' ' ++ l.text
  let body := (lines.takeWhile within).map shown
  let kept := (body.reverse.dropWhile List.isEmpty).reverse
  let text := joinLines folded kept
  let ending : List Char := match chomping with
    | .strip => []
    | .clip => if kept.isEmpty then [] else ['\n']
    | .keep => List.replicate (body.length - kept.length + if kept.isEmpty then 0 else 1) '\n'
  return (String.ofList (text ++ ending), lines.dropWhile within)

end NodeProvisioning.Yaml
