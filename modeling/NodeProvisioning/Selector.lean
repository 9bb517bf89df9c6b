import NodeProvisioning.NodeClaim.Basic

/-!
# Label selectors

A selector is a list of terms between commas. A term with an equals sign asks for a value of a key,
one without for the key alone; an empty term asks for nothing.

## Main definitions

* `Selector.Term` — one term
* `Selector.read` — the terms of a text
* `Selector.selects` — whether labels satisfy every term
-/

namespace NodeProvisioning.Selector

/-- What one term asks for. -/
inductive Term where
  /-- The key has this value. -/
  | equals (key value : String)
  /-- The key is there. -/
  | has (key : String)
deriving DecidableEq, Repr

/-- The pieces of a text between the occurrences of a separator. -/
def pieces (sep : Char) : List Char → List (List Char)
  | [] => [[]]
  | c :: rest =>
    if c = sep then [] :: pieces sep rest
    else match pieces sep rest with
      | [] => [[c]]
      | piece :: more => (c :: piece) :: more

/-- A term, divided at its first equals sign. -/
def Term.read (cs : List Char) : Term :=
  match cs.dropWhile (· ≠ '=') with
  | [] => .has (String.ofList cs)
  | _ :: value => .equals (String.ofList (cs.takeWhile (· ≠ '='))) (String.ofList value)

/-- The terms of a selector. -/
def read (selector : String) : List Term :=
  ((pieces ',' selector.toList).filter (· ≠ [])).map Term.read

/-- Whether labels satisfy a term. -/
def Term.accepts (labels : Labels) : Term → Bool
  | .equals key value => labels.find? key = some value
  | .has key => labels.contains key

/-- Whether labels satisfy every term of a selector. -/
def selects (selector : String) (labels : Labels) : Bool :=
  (read selector).all (·.accepts labels)

end NodeProvisioning.Selector
