import NodeProvisioning.Json.Reading
import NodeProvisioning.Json.Writing

/-!
# Requests and responses

What is sent to the server of a cluster's API and what comes back.

## Main definitions

* `Http.Request`, `Http.Response`, `Http.Outcome`
* `Http.Uri.ofText?` — the part of a text that can be the target of a request
* `Http.formEncode` — a text as part of a query
* `Http.Transport` — what carries a request
-/

namespace NodeProvisioning.Http

/-- What a request does. -/
inductive Method where
  | get
  | post
deriving DecidableEq, Repr

/-- The name of a method. -/
def Method.text : Method → String
  | .get => "GET"
  | .post => "POST"

/-- A request; one with a body sends it as JSON. -/
structure Request where
  method : Method
  uri : String
  body : Option Json := none

namespace Request

/-- The type of the body. -/
def contentType (r : Request) : Option String := r.body.map fun _ => "application/json"

/-- The target without its query. -/
def path (r : Request) : String := String.ofList (r.uri.toList.takeWhile (· ≠ '?'))

end Request

/-- The body of a response: a text, or the text of a value. -/
inductive Body where
  | text (s : String)
  | value (v : Json)

namespace Body

/-- The text of a body. -/
def toText : Body → String
  | .text s => s
  | .value v => v.write

/-- The value of a body, if it is the text of one. -/
def read? : Body → Option Json
  | .text s => Json.read? s
  | .value v => some v

end Body

/-- What the server sends back. -/
structure Response where
  status : Nat
  body : Body

/-- What becomes of a request. -/
inductive Outcome where
  | failed (reason : String)
  | response (r : Response)

/-- What carries a request: it acts on a state. -/
structure Transport (τ : Type) where
  send : Request → τ → τ × Outcome

/-! ## Targets -/

/-- A character that the path of a target may hold unescaped. -/
def isPathChar (c : Char) : Bool :=
  c = '!' || c = '"' || ('$' ≤ c && c ≤ ';') || c = '=' || ('@' ≤ c && c ≤ '_') ||
    ('a' ≤ c && c ≤ '~') || 0x7f ≤ c.toNat

/-- A character that the query of a target may hold unescaped. -/
def isQueryChar (c : Char) : Bool :=
  c = '!' || ('$' ≤ c && c ≤ ';') || c = '=' || ('?' ≤ c && c ≤ '~') || 0x7f ≤ c.toNat

/-- The target that a text names, without a fragment, if every character may stand in it. -/
def target? (text : String) : Option String :=
  let cs := text.toList.takeWhile (· ≠ '#')
  let path := cs.takeWhile (· ≠ '?')
  let query := (cs.dropWhile (· ≠ '?')).drop 1
  if path.all isPathChar ∧ query.all isQueryChar then some (String.ofList cs) else none

/-! ## Queries -/

/-- A byte of a query: letters, digits and `*-._` as they are, a space as a plus, else escaped. -/
def formByte (b : UInt8) : List Char :=
  let c := Char.ofNat b.toNat
  if c.isAlphanum || c = '*' || c = '-' || c = '.' || c = '_' then [c]
  else if c = ' ' then ['+']
  else '%' :: (Text.hexFixed 2 b.toNat).map Char.toUpper

/-- A text as part of a query. -/
def formEncode (s : String) : String := String.ofList (s.toUTF8.toList.flatMap formByte)

end NodeProvisioning.Http
