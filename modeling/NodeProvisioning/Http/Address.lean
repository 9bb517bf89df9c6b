import NodeProvisioning.Http.Message

/-!
# Server addresses

An address is a scheme and an authority with a path, an authority alone, or a path alone.

## Main definitions

* `Http.authority?` — the authority at the head of a text, and what comes after it
* `Http.isAddress` — whether a text is an address
-/

namespace NodeProvisioning.Http

/-- A character of an authority. -/
def isAuthorityChar (c : Char) : Bool :=
  c.isAlphanum ||
    ['!', '$', '&', '\'', '(', ')', '*', '+', ',', '-', '.', ':', ';', '=', '@', '[', ']', '_',
      '~'].contains c

/-- What was seen of an authority so far. -/
structure AuthorityScan where
  colons : Nat := 0
  opened : Bool := false
  closed : Bool := false
  escaped : Bool := false
  /-- Whether the last character closed the name of a user. -/
  atUser : Bool := false

namespace AuthorityScan

/-- One more character of an authority. -/
def next (s : AuthorityScan) (c : Char) : Option AuthorityScan :=
  let s := { s with atUser := false }
  if c = ':' then if 8 ≤ s.colons then none else some { s with colons := s.colons + 1 }
  else if c = '[' then if s.escaped || s.opened then none else some { s with opened := true }
  else if c = ']' then
    if !s.opened || s.closed then none
    else some { s with closed := true, colons := 0, escaped := false }
  else if c = '@' then some { s with colons := 0, escaped := false, atUser := true }
  else if c = '%' then some { s with escaped := true }
  else if isAuthorityChar c then some s
  else none

/-- Whether an authority may end here: its brackets are closed, at most one colon is left before a
number, an escape stands only before a user's end, and a host follows the user. -/
def mayEnd (s : AuthorityScan) : Bool :=
  s.opened = s.closed && s.colons ≤ 1 && !s.atUser && !s.escaped

end AuthorityScan

/-- The authority at the head of a text, and what comes after it. -/
def authority? (cs : List Char) : Option (List Char × List Char) :=
  let within (c : Char) : Bool := c ≠ '/' && c ≠ '?' && c ≠ '#'
  let authority := cs.takeWhile within
  match authority.foldl (fun s c => s.bind (·.next c)) (some ({} : AuthorityScan)) with
  | some s => if s.mayEnd then some (authority, cs.dropWhile within) else none
  | none => none

/-- A character of a scheme. -/
def isSchemeChar (c : Char) : Bool := c.isAlphanum || c = '+' || c = '-' || c = '.'

/-- The longest scheme. -/
def longestScheme : Nat := 64

/-- A scheme at the head of a text, and what comes after its slashes. -/
def splitScheme (cs : List Char) : Option (List Char × List Char) :=
  match cs.dropWhile isSchemeChar with
  | ':' :: '/' :: '/' :: rest => some (cs.takeWhile isSchemeChar, rest)
  | _ => none

/-- Whether a text is an address. -/
def isAddress (text : String) : Bool :=
  match text.toList with
  | [] => false
  | ['*'] => true
  | '/' :: _ => (target? text).isSome
  | cs =>
    match splitScheme cs with
    | some (scheme, rest) =>
      scheme.length ≤ longestScheme &&
        match authority? rest with
        | some (authority, path) =>
          !authority.isEmpty && (target? (String.ofList path)).isSome
        | none => false
    | none =>
      match authority? cs with
      | some (_, rest) => rest.isEmpty
      | none => false

end NodeProvisioning.Http
