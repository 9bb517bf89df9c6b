import NodeProvisioning.Http.Message
import NodeProvisioning.SortedMap

/-!
# Scripted servers

Servers whose responses are written down beforehand. One answers whatever comes with the next
response; the other has responses for each method and path.

## Main definitions

* `Http.nextOutcome` — of several responses the last stays
* `Http.Script`, `Http.Script.transport` — one list of responses for all requests
* `Http.Routes`, `Http.Routes.transport` — a list of responses for each route
-/

namespace NodeProvisioning.Http

/-- The next of several outcomes, and what is left of them: the last one stays. -/
def nextOutcome : List Outcome → Option Outcome × List Outcome
  | [] => (none, [])
  | [a] => (some a, [a])
  | a :: rest => (some a, rest)

/-- A server with one list of outcomes for all requests. -/
structure Script where
  outcomes : List Outcome
  /-- The requests so far, the latest first. -/
  requests : List Request := []

namespace Script

/-- Answer with the next outcome. -/
def transport : Transport Script where
  send r s :=
    let (outcome, left) := nextOutcome s.outcomes
    (⟨left, r :: s.requests⟩, outcome.getD (.failed "no response scripted"))

end Script

/-- A server with a list of outcomes for each route. -/
structure Routes where
  outcomes : SortedMap String (List Outcome) := ∅
  /-- How many requests each route has had. -/
  counts : SortedMap String Nat := ∅

namespace Routes

/-- The method and path of a request. -/
def routeOf (r : Request) : String := r.method.text ++ " " ++ r.path

/-- The response of a route that the server does not know. -/
def unknownRoute (route : String) : Outcome :=
  .response ⟨404, .value (.obj [
    ("status", .str "Failure"), ("message", .str route), ("reason", .str "NotFound"),
    ("code", .nat 404)])⟩

/-- Answer with the next outcome of the route. -/
def transport : Transport Routes where
  send r s :=
    let route := routeOf r
    let counts := s.counts.insert route ((s.counts.find? route).getD 0 + 1)
    match s.outcomes.find? route with
    | none => ({ s with counts }, unknownRoute route)
    | some l =>
      let (outcome, left) := nextOutcome l
      (⟨s.outcomes.insert route left, counts⟩, outcome.getD (unknownRoute route))

end Routes

end NodeProvisioning.Http
