import NodeProvisioning.Backend
import NodeProvisioning.Selector

/-!
# A backend in memory

Node claims under their keys, with what successive looks at a claim are to show. It stands in for a
cluster where a run is rehearsed.

## Main definitions

* `Store` — the claims, the scripts, and a record of what was created and looked at
* `Snapshot` — what one look shows
* `Store.create`, `Store.get`, `Store.list` — the three calls
* `Store.backend` — the store as a backend that answers at once
-/

namespace NodeProvisioning

/-- What one look at a claim shows. -/
inductive Snapshot where
  /-- The claim with these conditions as its status. -/
  | conditions (l : List Condition)
  /-- A refusal. -/
  | refusal (code : Nat) (message : String)
deriving DecidableEq, Repr

namespace Snapshot

/-- A claim of which nothing is reported. -/
def pending : Snapshot := .conditions []

/-- A claim that was launched and is ready. -/
def ready : Snapshot :=
  .conditions [.of "Launched" .true "" "", .of "Ready" .true "" ""]

/-- A claim that could not be launched. -/
def launchFailed (message : String) : Snapshot :=
  .conditions [.of "Launched" .false "LaunchFailed" message]

end Snapshot

/-- The reason that goes with the code of a refusal. -/
def refusalReason (code : Nat) : String :=
  if code = 404 then "NotFound"
  else if code = 409 then "AlreadyExists"
  else if code = 403 then "Forbidden"
  else if code = 429 then "TooManyRequests"
  else if 500 ≤ code then "InternalError"
  else "BadRequest"

/-- A refusal with the reason that goes with its code. -/
def refusal (code : Nat) (message : String) : RequestError :=
  .failure code (refusalReason code) message

/-- Node claims in memory. -/
structure Store where
  claims : SortedMap ClaimKey NodeClaim := ∅
  /-- What successive looks show; the last entry stays. -/
  scripts : SortedMap ClaimKey (List Snapshot) := ∅
  /-- The claims a look at which is never answered. -/
  hanging : List ClaimKey := []
  /-- The refusal that every creation meets. -/
  createFailure : Option (Nat × String) := none
  /-- The refusal that every listing meets. -/
  listFailure : Option (Nat × String) := none
  /-- The claims created through a call, in the order of the calls. -/
  created : List ClaimKey := []
  /-- How often each claim was looked at. -/
  looks : SortedMap ClaimKey Nat := ∅

namespace Store

/-- Store a claim as if it had been there before. -/
def put (s : Store) (claim : NodeClaim) : Store :=
  { s with claims := s.claims.insert claim.key claim }

/-- Report conditions on a claim, if it is there. -/
def report (s : Store) (key : ClaimKey) (l : List Condition) : Store :=
  match s.claims.find? key with
  | some claim => { s with claims := s.claims.insert key (claim.withConditions l) }
  | none => s

/-- Set what successive looks at a claim show. -/
def script (s : Store) (key : ClaimKey) (l : List Snapshot) : Store :=
  { s with scripts := s.scripts.insert key l }

/-- Leave every look at a claim unanswered. -/
def hang (s : Store) (key : ClaimKey) : Store :=
  if key ∈ s.hanging then s else { s with hanging := key :: s.hanging }

/-- How often a claim was looked at. -/
def looksAt (s : Store) (key : ClaimKey) : Nat := (s.looks.find? key).getD 0

/-- The refusal of a claim that is there already. -/
def alreadyExists (name : String) : RequestError :=
  .failure 409 "AlreadyExists" ("nodeclaims \"" ++ name ++ "\" already exists")

/-- The refusal of a claim that is not there. -/
def notFound (name : String) : RequestError :=
  .failure 404 "NotFound" ("nodeclaims \"" ++ name ++ "\" not found")

/-- Create a claim unless one of its key is there. -/
def create (s : Store) (claim : NodeClaim) : Store × Except RequestError Unit :=
  match s.createFailure with
  | some (code, message) => (s, .error (refusal code message))
  | none =>
    if s.claims.contains claim.key then (s, .error (alreadyExists claim.key.name))
    else ({ s with
        claims := s.claims.insert claim.key claim
        created := s.created ++ [claim.key] }, .ok ())

/-- The entry that the next look shows, and the entries left after it: the last one stays. -/
def nextSnapshot : List Snapshot → Option Snapshot × List Snapshot
  | [] => (none, [])
  | [a] => (some a, [a])
  | a :: rest => (some a, rest)

/-- Look at a claim whose script has shown `shown`. -/
def observe (s : Store) (key : ClaimKey) (shown : Option Snapshot) :
    Store × Except RequestError NodeClaim :=
  match shown with
  | some (.refusal code message) => (s, .error (refusal code message))
  | some (.conditions l) =>
    match s.claims.find? key with
    | none => (s, .error (notFound key.name))
    | some claim =>
      let claim := claim.withConditions l
      ({ s with claims := s.claims.insert key claim }, .ok claim)
  | none =>
    match s.claims.find? key with
    | none => (s, .error (notFound key.name))
    | some claim => (s, .ok claim)

/-- Look at a claim; there is no answer where it hangs. -/
def get (s : Store) (key : ClaimKey) : Store × Option (Except RequestError NodeClaim) :=
  let s := { s with looks := s.looks.insert key (s.looksAt key + 1) }
  if key ∈ s.hanging then (s, none)
  else match s.scripts.find? key with
    | none =>
      let (s, r) := s.observe key none
      (s, some r)
    | some script =>
      let (shown, left) := nextSnapshot script
      let (s, r) := ({ s with scripts := s.scripts.insert key left }).observe key shown
      (s, some r)

/-- The claims of a namespace that a selector finds, in key order. -/
def list (s : Store) (ns selector : String) : Except RequestError (List NodeClaim) :=
  match s.listFailure with
  | some (code, message) => .error (refusal code message)
  | none => .ok ((s.claims.entries.filter fun e =>
      e.1.ns = ns ∧ Selector.selects selector e.2.metadata.labelMap).map (·.2))

/-- The store as a backend that answers at once, or never. -/
def backend : Backend Store where
  create _ claim s :=
    let (s, r) := s.create claim
    (s, .answered r)
  get _ key s :=
    match s.get key with
    | (s, some r) => (s, .answered r)
    | (s, none) => (s, .unanswered)
  list _ ns selector s := (s, .answered (s.list ns selector))

end Store

end NodeProvisioning
