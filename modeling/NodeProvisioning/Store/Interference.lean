import NodeProvisioning.Store.Basic

/-!
# Interference

A store behind a connection that is slow or fails. A call of a certain kind and key waits before it
reaches the store; and the first such calls may be answered with errors of the connection's own,
which never reach the store.

## Main definitions

* `CallSite` — the calls that are treated alike
* `Rehearsal` — a store with the delays and errors of its call sites
* `Rehearsal.backend` — the store as reached through the connection
-/

namespace NodeProvisioning

/-- The calls that a connection treats alike. -/
inductive CallSite where
  | create (key : ClaimKey)
  | get (key : ClaimKey)
  | list (ns : String)
deriving DecidableEq, Repr

/-- A store with the delays and errors of its call sites. -/
structure Rehearsal where
  store : Store := {}
  /-- How long calls wait. -/
  delays : List (CallSite × Duration) := []
  /-- What successive calls are answered with; `none` lets a call pass. -/
  faults : List (CallSite × List (Option RequestError)) := []

namespace Rehearsal

/-- The entry of a call site. -/
def lookup {α : Type} (l : List (CallSite × α)) (site : CallSite) : Option α :=
  (l.find? fun e => e.1 = site).map (·.2)

/-- The entries with another one for a call site. -/
def setEntry {α : Type} (l : List (CallSite × α)) (site : CallSite) (a : α) :
    List (CallSite × α) :=
  (site, a) :: l.filter fun e => e.1 ≠ site

/-- Set how long calls wait. -/
def delay (r : Rehearsal) (site : CallSite) (d : Duration) : Rehearsal :=
  { r with delays := setEntry r.delays site d }

/-- Set what successive calls are answered with. -/
def inject (r : Rehearsal) (site : CallSite) (l : List (Option RequestError)) : Rehearsal :=
  { r with faults := setEntry r.faults site l }

/-- The error of the next call, which uses it up. -/
def takeFault (r : Rehearsal) (site : CallSite) : Rehearsal × Option RequestError :=
  match lookup r.faults site with
  | none => (r, none)
  | some [] => (r, none)
  | some (e :: rest) => (r.inject site rest, e)

/-- Begin a call: take its error, and wait if it has to. -/
def begin {α : Type} (site : CallSite)
    (reach : Store → Store × Option (Except RequestError α)) (r : Rehearsal) :
    Rehearsal × Progress Rehearsal (Except RequestError α) :=
  let (r, fault) := r.takeFault site
  let finish (r : Rehearsal) : Rehearsal × Option (Except RequestError α) :=
    match fault with
    | some e => (r, some (.error e))
    | none =>
      let (s, a) := reach r.store
      ({ r with store := s }, a)
  let wait := ((lookup r.delays site).getD .zero).nanos
  if wait = 0 then
    match finish r with
    | (r, some a) => (r, .answered a)
    | (r, none) => (r, .unanswered)
  else (r, .waiting wait 0 finish)

/-- The store as reached through the connection. -/
def backend : Backend Rehearsal where
  create _ claim := begin (.create claim.key) fun s =>
    let (s, r) := s.create claim
    (s, some r)
  get _ key := begin (.get key) fun s => s.get key
  list _ ns selector := begin (.list ns) fun s => (s, some (s.list ns selector))

end Rehearsal

end NodeProvisioning
