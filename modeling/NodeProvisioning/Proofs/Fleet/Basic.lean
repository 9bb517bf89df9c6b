import NodeProvisioning.Proofs.Run.History
import NodeProvisioning.Proofs.Store.Ledger

/-!
# Several runs against one store

Several runs provision one workload, each in its own way and at its own pace, against one store.
Their calls reach the store one after the other, in any order; how each run goes on depends on what
it was answered.

A run is a function of its whole surroundings, and does not stop to be resumed.  So a run that has
made some calls is described by what came back for them: a *relay* stands in for the store, hands
out these replies in order, and writes down the first call for which there is none left.  In a
*turn* of a run the store sees to that call, and from then on the relay has one reply more.  A
schedule is a list of turns.

## Main definitions

* `Store.serve` — the store sees to a call; that the store as a backend does the same is
  `Store.backend_eq_serve`
* `Relay`, `Relay.backend` — replies for one run, and the backend that hands them out
* `Member`, `Fleet` — a run with its pace, and several runs of one workload
* `Fleet.turn`, `Fleet.after` — one call reaches the store, and several do
* `Fleet.outcome`, `Fleet.HasSubmitted` — what a run has come to

## Design notes

How long a call takes is up to its run, and is counted from the beginning of the call: the clocks of
two runs are not compared, and any order of turns is possible.  A run is abandoned by giving it no
more turns.  Its outcome is then what it comes to if its next call is never seen to.
-/

namespace NodeProvisioning

/-! ## Calls in one form -/

namespace Answer

/-- What came back, if it is for a creation. -/
def created? : Answer → Option (Except RequestError Unit)
  | .create _ result => some result
  | _ => none

/-- What came back, if it is for a look. -/
def seen? : Answer → Option (Except RequestError NodeClaim)
  | .get _ result => some result
  | _ => none

/-- What came back, if it is for a listing. -/
def listed? : Answer → Option (Except RequestError (List NodeClaim))
  | .list _ _ result => some result
  | _ => none

theorem created?_eq_some {answer : Answer} {result : Except RequestError Unit}
    (h : answer.created? = some result) : ∃ claim, answer = .create claim result := by
  unfold created? at h
  split at h <;> cases h
  exact ⟨_, rfl⟩

end Answer

/-- What becomes of a call that is answered at once, if ever. -/
def Progress.atOnce {σ α : Type} : Option α → Progress σ α
  | some a => .answered a
  | none => .unanswered

namespace Store

/-- Let the store see to a call; it may never answer. -/
def serve (s : Store) : Call → Store × Option Answer
  | .create claim => ((s.create claim).1, some (.create claim (s.create claim).2))
  | .get key => ((s.get key).1, (s.get key).2.map (.get key))
  | .list ns selector => (s, some (.list ns selector (s.list ns selector)))

/-- **The store as a backend** sees to each call when it begins. -/
theorem backend_eq_serve : Store.backend = {
    create := fun _ claim s =>
      ((s.serve (.create claim)).1, .atOnce ((s.serve (.create claim)).2.bind Answer.created?))
    get := fun _ key s =>
      ((s.serve (.get key)).1, .atOnce ((s.serve (.get key)).2.bind Answer.seen?))
    list := fun _ ns selector s =>
      ((s.serve (.list ns selector)).1,
        .atOnce ((s.serve (.list ns selector)).2.bind Answer.listed?)) } := by
  have looks : ∀ t key s, Store.backend.get t key s =
      ((s.serve (.get key)).1, .atOnce ((s.serve (.get key)).2.bind Answer.seen?)) := by
    intro t key s
    rw [backend_get, serve]
    cases (s.get key).2 <;> rfl
  rw [Backend.mk.injEq]
  exact ⟨rfl, funext fun t => funext fun key => funext fun s => looks t key s, rfl⟩

end Store

/-- A call that was seen to, and its reply if there is one. -/
structure Exchange where
  call : Call
  reply : Option Answer

/-! ## Relays -/

/-- What stands in for the store in one run. -/
structure Relay where
  /-- The replies that are still to be handed out. -/
  replies : List (Option Answer) := []
  /-- The calls for which a reply was handed out, in order. -/
  exchanges : List Exchange := []
  /-- The first call for which there was none. -/
  knock : Option Call := none
  /-- How many calls have begun. -/
  begun : Nat := 0

namespace Relay

/-- Hand out the next reply, or write down that there is none. -/
def pass (call : Call) (r : Relay) : Relay × Option Answer :=
  match r.replies with
  | reply :: rest =>
    ({ r with replies := rest, exchanges := r.exchanges ++ [⟨call, reply⟩] }, reply)
  | [] => ({ r with knock := r.knock.or (some call) }, none)

/-- Pass a call on, and read its reply. -/
def ask {α : Type} (call : Call) (read : Answer → Option α) (r : Relay) : Relay × Option α :=
  ((r.pass call).1, (r.pass call).2.bind read)

/-- Count a call that begins. -/
def count (r : Relay) : Relay := { r with begun := r.begun + 1 }

/-- Begin a call: it is passed on at once, or after the delay and in the turn that `pace` gives to
the calls of the run, in the order in which they begin. -/
def begin {α : Type} (pace : Nat → Option (Nat × Nat)) (call : Call) (read : Answer → Option α)
    (r : Relay) : Relay × Progress Relay α :=
  match pace r.begun with
  | some (delay, turn) => (r.count, .waiting delay turn (ask call read))
  | none => ((r.count.ask call read).1, .atOnce (r.count.ask call read).2)

/-- A relay as the backend of a run. -/
def backend (pace : Nat → Option (Nat × Nat)) : Backend Relay where
  create _ claim := begin pace (.create claim) Answer.created?
  get _ key := begin pace (.get key) Answer.seen?
  list _ ns selector := begin pace (.list ns selector) Answer.listed?

end Relay

/-! ## Fleets -/

/-- A run of provisioning. -/
structure Member where
  config : RunConfig := {}
  signals : Signals := {}
  /-- When it begins, on its own clock. -/
  start : Instant := 0
  /-- The delay and the turn of each of its calls; `none` where a call does not wait. -/
  pace : Nat → Option (Nat × Nat) := fun _ => none

/-- Several runs that provision one workload. -/
structure Fleet (ι : Type) where
  workload : Workload
  member : ι → Member

/-- A call of one of several runs. -/
structure Entry (ι : Type) extends Exchange where
  run : ι

/-- The store that several runs share, and the calls that have reached it, in order. -/
structure Shared (ι : Type) where
  store : Store
  log : List (Entry ι) := []

namespace Fleet

variable {ι : Type} [DecidableEq ι]

/-- The calls of one run in a log. -/
def exchangesOf (i : ι) (log : List (Entry ι)) : List Exchange :=
  (log.filter fun e => e.run = i).map (·.toExchange)

variable (f : Fleet ι) (i : ι) (log : List (Entry ι))

/-- The keys of the workload's claims. -/
def keys {ι : Type} (f : Fleet ι) : List ClaimKey :=
  (List.range f.workload.nodeCount).map fun n => f.workload.claimKey (Workload.indexText n)

/-- The claims that a run asks for. -/
def claims {ι : Type} (f : Fleet ι) (i : ι) : List NodeClaim :=
  f.workload.claims (f.member i).config.manifest

/-- Where a run begins, with the replies that a log has for it. -/
def origin : World Relay :=
  .start (f.member i).start { replies := (exchangesOf i log).map (·.reply) }

/-- A run, up to what its replies let it do. -/
def run : Except Halt Unit × World Relay :=
  Provisioning.provision (Relay.backend (f.member i).pace) (f.member i).config (f.member i).signals
    f.workload (f.origin i log)

/-- The submission phase of a run, up to what its replies let it do. -/
def submission : Except Halt Instant × World Relay :=
  Provisioning.submission (Relay.backend (f.member i).pace) (f.member i).config
    (f.member i).signals f.workload (f.origin i log)

/-- What a run comes to if its next call is never seen to. -/
def outcome : Except Halt Unit := (f.run i log).1

/-- A run has got through its submission phase. -/
def HasSubmitted : Prop := ∃ deadline, (f.submission i log).1 = .ok deadline

/-- **One turn**: the store sees to the next call of a run, if the run has come to one. -/
def turn (x : Shared ι) (i : ι) : Shared ι :=
  match (f.run i x.log).2.state.knock with
  | none => x
  | some call => ⟨(x.store.serve call).1, x.log ++ [⟨⟨call, (x.store.serve call).2⟩, i⟩]⟩

/-- **A schedule**: turns of any runs in any order. -/
def after (s : Store) (schedule : List ι) : Shared ι := schedule.foldl f.turn ⟨s, []⟩

end Fleet

end NodeProvisioning
