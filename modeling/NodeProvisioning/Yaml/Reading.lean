import NodeProvisioning.Yaml.Flow

/-!
# Reading documents

Mappings and sequences in block style, told apart by their margins, with any value that fits into a
line. Anchors, tags and keys that are no texts are not understood.

## Main definitions

* `Yaml.readValue` — the value that begins at a line
* `Yaml.readDocument` — the value of the lines of one document
* `Yaml.readStream` — the values of a stream, `none` where a document cannot be read
-/

namespace NodeProvisioning.Yaml

/-- The rest of a text without quotes on the lines after its first, which stand at `least` or
further in; `breaks` counts the empty lines on the way. -/
def plainRest (least : Nat) : (breaks : Nat) → List Line → Option (List Char × List Line)
  | _, [] => some ([], [])
  | breaks, l :: rest =>
    if l.text.isEmpty then plainRest least (breaks + 1) rest
    else if l.indent < least || l.isVoid then some ([], l :: rest)
    else
      let (run, after) := plainRun false false l.text
      if !endsLine after then none
      else
        let line := foldedBreaks (breaks + 1) ++ trimRun run
        if !after.isEmpty then some (line, rest)
        else (plainRest least 0 rest).map fun (more, left) => (line ++ more, left)

/-- A text without quotes, and the lines after it. -/
def readPlain (least : Nat) (cs : List Char) (rest : List Line) : Option (Node × List Line) :=
  if !startsPlain false cs then none
  else
    let (run, after) := plainRun false false cs
    if !endsLine after then none
    else if !after.isEmpty then
      some (.ofPlain (String.ofList (trimRun run)), rest)
    else (plainRest least 0 rest).map fun (more, left) =>
      (.ofPlain (String.ofList (trimRun run ++ more)), left)

/-- The text of lines, without their margins. -/
def joined (lines : List Line) : List Char :=
  ['\n'].intercalate (lines.map Line.text)

/-- The lines after a value that left `rest` of the joined text; nothing may follow on its line. -/
def linesAfter? (lines : List Line) (rest : List Char) : Option (List Line) :=
  if atEnd (rest.takeWhile (· ≠ '\n')) then
    some (lines.drop (lines.length - rest.count '\n'))
  else none

/-- Whether a value in quotes or brackets begins here. -/
def startsFlow (cs : List Char) : Bool :=
  match cs with
  | c :: _ => c = '[' || c = '\x7b' || c = '\'' || c = '"'
  | [] => false

mutual

/-- The value that begins with the first line, on lines at `least` or further in; behind a key no
sequence and no mapping begins. The lines after it begin with one on which something stands. -/
def readValue : (fuel least : Nat) → (behindKey : Bool) → List Line → Option (Node × List Line)
  | 0, _, _, _ => none
  | _ + 1, _, _, [] => some (.null, [])
  | fuel + 1, least, behindKey, l :: rest =>
    if l.isItem then
      if behindKey then none
      else (readItems fuel l.indent (l :: rest)).map fun (items, left) => (.sequence items, left)
    else if (readKey? l.text).isSome then
      if behindKey then none
      else (readMembers fuel l.indent [] (l :: rest)).map fun (m, left) => (.mapping m, left)
    else if startsFlow l.text then do
      let text := joined (l :: rest)
      let (v, left) ← readFlow (text.length + 1) text
      let left ← linesAfter? (l :: rest) left
      return (v, skipVoid left)
    else
      match l.text with
      | '|' :: header =>
        (readBlock false least header rest).map fun (s, left) => (.text s, skipVoid left)
      | '>' :: header =>
        (readBlock true least header rest).map fun (s, left) => (.text s, skipVoid left)
      | cs => (readPlain least cs rest).map fun (v, left) => (v, skipVoid left)

/-- The items of a sequence at a margin. -/
def readItems : (fuel margin : Nat) → List Line → Option (List Node × List Line)
  | 0, _, _ => none
  | _ + 1, _, [] => some ([], [])
  | fuel + 1, margin, l :: rest =>
    if l.indent < margin || (l.indent = margin && !l.isItem) then some ([], l :: rest)
    else if margin < l.indent then none
    else
      let after := l.text.drop 1
      let item :=
        if atEnd after then
          match skipVoid rest with
          | [] => some (.null, [])
          | next :: rest =>
            if margin < next.indent then readValue fuel (margin + 1) false (next :: rest)
            else some (.null, next :: rest)
        else
          let width := 1 + (after.takeWhile isSpacing).length
          readValue fuel (margin + 1) false (⟨margin + width, after.dropWhile isSpacing⟩ :: rest)
      match item with
      | none => none
      | some (v, left) => (readItems fuel margin left).map fun (items, left) => (v :: items, left)

/-- The members of a mapping at a margin, after those with the keys `seen`. -/
def readMembers : (fuel margin : Nat) → (seen : List String) → List Line →
    Option (List (String × Node) × List Line)
  | 0, _, _, _ => none
  | _ + 1, _, _, [] => some ([], [])
  | fuel + 1, margin, seen, l :: rest =>
    if l.indent < margin then some ([], l :: rest)
    else if margin < l.indent || l.isItem then none
    else
      match readKey? l.text with
      | none => none
      | some (key, after) =>
        let value :=
          if atEnd after then
            match skipVoid rest with
            | [] => some (.null, [])
            | next :: rest =>
              if margin < next.indent then readValue fuel (margin + 1) false (next :: rest)
              else if next.indent = margin && next.isItem then
                (readItems fuel margin (next :: rest)).map fun (l, left) => (.sequence l, left)
              else some (.null, next :: rest)
          else readValue fuel (margin + 1) true (⟨margin + 1, after.dropWhile isSpacing⟩ :: rest)
        match value with
        | none => none
        | some (v, left) =>
          if seen.contains key then none
          else (readMembers fuel margin (key :: seen) left).map fun (m, left) =>
            ((key, v) :: m, left)

end

/-- The value of the lines of one document: all of them belong to it. -/
def readDocument (lines : List Line) : Option Node :=
  let size := (joined lines).length + lines.length
  match skipVoid lines with
  | [] => some .null
  | lines =>
    match readValue (size + 1) 0 false lines with
    | some (v, []) => some v
    | _ => none

/-- A character that may stand in a stream. -/
def isReadable (c : Char) : Bool :=
  isShown c || c = '\t' || c = '\r' || c = '\u0085' || c = '\ufeff'

/-- The values of a stream, `none` where a document cannot be read. -/
def readStream (text : String) : List (Option Node) :=
  if text.toList.all isReadable then (documents text).map readDocument else [none]

end NodeProvisioning.Yaml
