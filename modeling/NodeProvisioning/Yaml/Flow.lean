import NodeProvisioning.Yaml.Line
import NodeProvisioning.Yaml.Node

/-!
# Values inside a line

Texts with and without quotes, and sequences and mappings between brackets.

## Main definitions

* `Yaml.readSingle`, `Yaml.readDouble` — a text in quotes
* `Yaml.plainRun` — a text without quotes
* `Yaml.readFlow` — a value that may be between brackets
-/

namespace NodeProvisioning.Yaml

/-! ## Quotes -/

/-- How many line breaks come next, spaces around them left out, and what comes after them. -/
def spanBreaks : List Char → Nat × List Char
  | [] => (0, [])
  | c :: rest =>
    if c = '\n' then
      let (n, rest) := spanBreaks rest
      (n + 1, rest)
    else if isSpacing c then spanBreaks rest
    else (0, c :: rest)

theorem length_spanBreaks (cs : List Char) : (spanBreaks cs).2.length ≤ cs.length := by
  induction cs with
  | nil => simp [spanBreaks]
  | cons c rest ih =>
    unfold spanBreaks
    split
    · simp only [List.length_cons]; omega
    · split
      · simp only [List.length_cons]; omega
      · simp

/-- What line breaks inside a text are read as: one as a space, of several all but the first. -/
def foldedBreaks (n : Nat) : List Char := if n ≤ 1 then [' '] else List.replicate (n - 1) '\n'

/-- The characters read so far, the last one first, without the spaces that end a line. -/
def endedLine (acc : List Char) : List Char := acc.dropWhile isSpacing

/-- The rest of a text in single quotes; a quote in it is written twice. -/
def readSingle : (acc : List Char) → List Char → Option (String × List Char)
  | _, [] => none
  | acc, '\'' :: '\'' :: rest => readSingle ('\'' :: acc) rest
  | acc, '\'' :: rest => some (String.ofList acc.reverse, rest)
  | acc, c :: rest =>
    if c = '\n' then
      let folded := spanBreaks rest
      readSingle ((foldedBreaks (folded.1 + 1)).reverse ++ endedLine acc) folded.2
    else readSingle (c :: acc) rest
termination_by _ cs => cs.length
decreasing_by
  all_goals simp_wf
  all_goals have := length_spanBreaks rest
  all_goals omega

/-- The character of an escape by letter. -/
def escapedLetter? (c : Char) : Option Char :=
  [('0', '\x00'), ('a', '\x07'), ('b', '\x08'), ('t', '\t'), ('n', '\n'), ('v', '\x0b'),
    ('f', '\x0c'), ('r', '\r'), ('e', '\x1b'), (' ', ' '), ('"', '"'), ('/', '/'), ('\\', '\\'),
    ('N', '\u0085'), ('_', '\u00a0'), ('L', '\u2028'), ('P', '\u2029')].lookup c

/-- How many hexadecimal digits follow a letter. -/
def escapeWidth? (c : Char) : Option Nat := [('x', 2), ('u', 4), ('U', 8)].lookup c

/-- The character of a code point in hexadecimal digits. -/
def codePoint? (digits : List Char) : Option Char := do
  let n ← digitsIn? 16 digits
  if n.isValidChar then some (Char.ofNat n) else none

/-- The rest of a text in double quotes. -/
def readDouble : (fuel : Nat) → (acc : List Char) → List Char → Option (String × List Char)
  | 0, _, _ => none
  | fuel + 1, acc, cs =>
    match cs with
    | [] => none
    | '"' :: rest => some (String.ofList acc.reverse, rest)
    | '\\' :: '\n' :: rest => readDouble fuel acc (rest.dropWhile isSpacing)
    | '\\' :: c :: rest =>
      match escapedLetter? c, escapeWidth? c with
      | some e, _ => readDouble fuel (e :: acc) rest
      | none, some n =>
        if (rest.take n).length = n then
          match codePoint? (rest.take n) with
          | some e => readDouble fuel (e :: acc) (rest.drop n)
          | none => none
        else none
      | none, none => none
    | ['\\'] => none
    | c :: rest =>
      if c = '\n' then
        let (n, rest) := spanBreaks rest
        readDouble fuel ((foldedBreaks (n + 1)).reverse ++ endedLine acc) rest
      else readDouble fuel (c :: acc) rest

/-- A text in quotes of either kind. -/
def readQuoted? : List Char → Option (String × List Char)
  | '\'' :: rest => readSingle [] rest
  | '"' :: rest => readDouble (rest.length + 1) [] rest
  | _ => none

/-! ## Texts without quotes -/

/-- The marks between values. -/
def isFlowMark (c : Char) : Bool :=
  c = ',' || c = '[' || c = ']' || c = '\x7b' || c = '\x7d'

/-- Whether a text without quotes may begin here. -/
def startsPlain (flow : Bool) : List Char → Bool
  | [] => false
  | c :: rest =>
    if c = '-' || c = '?' || c = ':' then
      !atGap rest && rest.head? ≠ some '\n' && !(flow && rest.head?.any isFlowMark)
    else
      !isLeadingMark c && !isSpacing c && c ≠ '\n'

/-- A text without quotes up to the end of its line, a comment, or what ends it; and what comes
then. -/
def plainRun (flow : Bool) : (spaced : Bool) → List Char → List Char × List Char
  | _, [] => ([], [])
  | spaced, c :: rest =>
    let ends := c = '\n' || (c = '#' && spaced) || (flow && isFlowMark c) ||
      (c = ':' && (atGap rest || rest.head? = some '\n' || (flow && rest.head?.any isFlowMark)))
    if ends then ([], c :: rest)
    else
      let (run, left) := plainRun flow (isSpacing c) rest
      (c :: run, left)

/-- Whether a text without quotes ended with its line or at a comment. -/
def endsLine (after : List Char) : Bool := after.head?.all (· = '#')

/-- A text without the spaces at its end. -/
def trimRun (cs : List Char) : List Char := (cs.reverse.dropWhile isSpacing).reverse

/-- A key and its colon at the head of a line, and what comes after them. -/
def readKey? (cs : List Char) : Option (String × List Char) := do
  let (key, rest) ← match readQuoted? cs with
    | some (key, rest) => some (key, rest.dropWhile isSpacing)
    | none =>
      if startsPlain false cs then
        let (run, rest) := plainRun false false cs
        some (String.ofList (trimRun run), rest)
      else none
  match rest with
  | ':' :: rest => if atGap rest then some (key, rest) else none
  | _ => none

/-! ## Brackets -/

/-- What comes after spaces, line breaks and comments. -/
def skipFlow : (comment : Bool) → List Char → List Char
  | _, [] => []
  | true, c :: rest => if c = '\n' then skipFlow false rest else skipFlow true rest
  | false, c :: rest =>
    if c = '\n' || isSpacing c then skipFlow false rest
    else if c = '#' then skipFlow true rest
    else c :: rest

mutual

/-- A value, and what comes after it. -/
def readFlow : (fuel : Nat) → List Char → Option (Node × List Char)
  | 0, _ => none
  | fuel + 1, cs =>
    match cs with
    | '[' :: rest => (readFlowItems fuel rest).map fun (l, rest) => (.sequence l, rest)
    | '\x7b' :: rest => (readFlowMembers fuel rest).map fun (l, rest) => (.mapping l, rest)
    | '\'' :: _ => (readQuoted? cs).map fun (s, rest) => (.text s, rest)
    | '"' :: _ => (readQuoted? cs).map fun (s, rest) => (.text s, rest)
    | _ =>
      if startsPlain true cs then
        let (run, rest) := plainRun true false cs
        some (.ofPlain (String.ofList (trimRun run)), rest)
      else none

/-- The rest of a sequence after its bracket. -/
def readFlowItems : (fuel : Nat) → List Char → Option (List Node × List Char)
  | 0, _ => none
  | fuel + 1, cs =>
    match skipFlow false cs with
    | ']' :: rest => some ([], rest)
    | cs =>
      match readFlow fuel cs with
      | none => none
      | some (v, rest) =>
        match skipFlow false rest with
        | ',' :: rest => (readFlowItems fuel rest).map fun (l, rest) => (v :: l, rest)
        | ']' :: rest => some ([v], rest)
        | _ => none

/-- The rest of a mapping after its bracket; no key stands in it twice. -/
def readFlowMembers : (fuel : Nat) → List Char → Option (List (String × Node) × List Char)
  | 0, _ => none
  | fuel + 1, cs =>
    match skipFlow false cs with
    | '\x7d' :: rest => some ([], rest)
    | cs =>
      let key := match readQuoted? cs with
        | some (key, rest) => some (key, rest)
        | none =>
          if startsPlain true cs then
            let (run, rest) := plainRun true false cs
            some (String.ofList (trimRun run), rest)
          else none
      match key with
      | none => none
      | some (key, rest) =>
        let value := match skipFlow false rest with
          | ':' :: rest =>
            match skipFlow false rest with
            | ',' :: rest => some (.null, ',' :: rest)
            | '\x7d' :: rest => some (.null, '\x7d' :: rest)
            | rest => readFlow fuel rest
          | rest => some (.null, rest)
        match value with
        | none => none
        | some (v, rest) =>
          match skipFlow false rest with
          | ',' :: rest =>
            match readFlowMembers fuel rest with
            | none => none
            | some (l, rest) =>
              if l.any (·.1 == key) then none else some ((key, v) :: l, rest)
          | '\x7d' :: rest => some ([(key, v)], rest)
          | _ => none

end

end NodeProvisioning.Yaml
