import NodeProvisioning.Run.Submission

/-!
# Waiting until all claims are ready

The claims that were not yet seen ready are looked at in rounds, all of a round at once. A claim
that is seen ready is looked at no more; one that is pending, or could not be looked at for now, is
looked at in the next round; anything else ends the wait.

## Main definitions

* `Observation` — what one look at a claim means
* `Rounds.consume`, `Rounds.consumeAll` — the outstanding claims after one answer, and after several
* `Rounds.awaitUntil` — rounds up to a cancellation or a deadline
* `Rounds.await` — the same with a deadline some time from now

## Design notes

The looks of a round begin in key order. One that is answered at once is taken before the next
begins; those that have to wait are taken as they fall due, at one instant by their turn and then in
key order.
Cancellation comes before the deadline, and the deadline before anything else that is due at the
same instant.
-/

namespace NodeProvisioning

/-- What one look at a claim means for the wait. -/
inductive Observation where
  /-- The claim is ready. -/
  | ready
  /-- The claim has to be looked at again. -/
  | pending
  /-- The wait is over. -/
  | terminal (error : ProvisionError)
deriving DecidableEq, Repr

/-- What one look at a claim means for the wait. -/
def Observation.of (key : ClaimKey) : Except RequestError NodeClaim → Observation
  | .ok claim =>
    match claim.state with
    | .failed reason => .terminal (.provisioningFailed key.name reason)
    | .ready => .ready
    | .pending => .pending
  | .error e => if e.isTransient then .pending else .terminal (.ofFetch key.name e)

namespace Rounds

variable {σ : Type}

/-- The outstanding claims after one answer. -/
def consume (outstanding : List ClaimKey) (key : ClaimKey)
    (answer : Except RequestError NodeClaim) : Except ProvisionError (List ClaimKey) :=
  match Observation.of key answer with
  | .ready => .ok (outstanding.filter (· ≠ key))
  | .pending => .ok outstanding
  | .terminal e => .error e

/-- The outstanding claims after several answers, the first terminal one ending the wait. -/
def consumeAll (outstanding : List ClaimKey) :
    List (ClaimKey × Except RequestError NodeClaim) → Except ProvisionError (List ClaimKey)
  | [] => .ok outstanding
  | (key, answer) :: rest =>
    match consume outstanding key answer with
    | .ok left => consumeAll left rest
    | .error e => .error e

/-- What ends a wait besides what it waits for. -/
structure Limits where
  signals : Signals
  workspace : String
  deadline : Instant

namespace Limits

/-- The error of a deadline that comes while claims are outstanding. -/
def timeout (l : Limits) (outstanding : List ClaimKey) : ProvisionError :=
  .timeout l.workspace (outstanding.map (·.name))

/-- The alarms of a wait: cancellation, the deadline, what it waits for. -/
def alarms (l : Limits) (due : Option Instant) : List (Alarm Wake) := [
  ⟨l.signals.cancelAt, .cancelled⟩, ⟨some l.deadline, .expired⟩, ⟨due, .due⟩,
  ⟨l.signals.abandonAt, .abandoned⟩]

/-- Let time pass until an instant, or for ever, unless the wait ends before. -/
def pause (l : Limits) (outstanding : List ClaimKey) (due : Option Instant) : Run σ Unit := do
  match ← Run.sleepUntil (l.alarms due) with
  | .due => return ()
  | .cancelled => Run.fail (.cancelled l.workspace)
  | .expired => Run.fail (l.timeout outstanding)
  | .abandoned => Run.halt .stalled

/-- End the wait if the cancellation or the deadline has come. -/
def check (l : Limits) (outstanding : List ClaimKey) : Run σ Unit := do
  let t ← Run.now
  if l.signals.isCancelled t then Run.fail (.cancelled l.workspace)
  else if l.deadline ≤ t then Run.fail (l.timeout outstanding)
  else return ()

end Limits

/-- A look that has begun and has to wait. -/
structure Look (σ : Type) where
  key : ClaimKey
  /-- When it goes on, if ever. -/
  due : Option Instant
  /-- Its place among the looks that go on at that instant. -/
  turn : Nat
  /-- What it then does. -/
  finish : σ → σ × Option (Except RequestError NodeClaim)

namespace Look

/-- Whether a look goes on no later than another. -/
def noLater (a b : Look σ) : Bool :=
  match a.due, b.due with
  | some t, some u => t < u || (t = u && a.turn ≤ b.turn)
  | some _, none => true
  | none, some _ => false
  | none, none => true

/-- Put a look before the first that goes on no earlier. -/
def insert (a : Look σ) : List (Look σ) → List (Look σ)
  | [] => [a]
  | b :: rest => if a.noLater b then a :: b :: rest else b :: insert a rest

/-- Looks in the order in which they go on, at one instant and turn in the order given. -/
def inOrder (l : List (Look σ)) : List (Look σ) := l.foldr insert []

/-- Putting a look in its place adds it to the others. -/
theorem insert_perm (a : Look σ) (looks : List (Look σ)) :
    (a.insert looks).Perm (a :: looks) := by
  induction looks with
  | nil => exact .refl _
  | cons b rest ih =>
    rw [insert]
    split
    · exact .refl _
    · exact (ih.cons b).trans (.swap a b rest)

/-- The order in which looks go on neither loses nor adds one. -/
theorem inOrder_perm (looks : List (Look σ)) : (inOrder looks).Perm looks := by
  induction looks with
  | nil => exact .refl _
  | cons a rest ih => exact (insert_perm a _).trans (ih.cons a)

end Look

/-- Take an answer: leave it in the trace, and see what is outstanding after it. -/
def take (outstanding : List ClaimKey) (key : ClaimKey) (answer : Except RequestError NodeClaim) :
    Run σ (List ClaimKey) := do
  Run.note fun t => .took t (.get key answer)
  match consume outstanding key answer with
  | .ok left => return left
  | .error e => Run.fail e

/-- Begin a look: its answer if that comes at once, else the look that has to wait. -/
def begin (b : Backend σ) (key : ClaimKey) :
    Run σ (Except RequestError NodeClaim ⊕ Look σ) := do
  Run.note fun t => .began t (.get key)
  let t ← Run.now
  match ← Run.act (b.get t key) with
  | .answered answer => return .inl answer
  | .unanswered => return .inr ⟨key, none, 0, fun s => (s, none)⟩
  | .waiting delay turn finish => return .inr ⟨key, some (t + delay), turn, finish⟩

/-- Begin the looks of a round in order, and take what is answered at once. The result is what is
outstanding then, and the looks that have to wait. -/
def start (b : Backend σ) : List ClaimKey → List ClaimKey → Run σ (List ClaimKey × List (Look σ))
  | [], outstanding => return (outstanding, [])
  | key :: rest, outstanding => do
    match ← begin b key with
    | .inl answer =>
      let left ← take outstanding key answer
      start b rest left
    | .inr look =>
      let (left, looks) ← start b rest outstanding
      return (left, look :: looks)

/-- Take the looks that have to wait as they fall due; `stuck` tells that one is never answered. -/
def collect (l : Limits) : (stuck : Bool) → List ClaimKey → List (Look σ) → Run σ (List ClaimKey)
  | false, outstanding, [] => return outstanding
  | true, outstanding, [] => do
    l.pause outstanding none
    Run.halt .stalled
  | stuck, outstanding, look :: rest =>
    match look.due with
    | none => collect l true outstanding rest
    | some t => do
      l.pause outstanding (some t)
      match ← Run.act look.finish with
      | some answer =>
        let left ← take outstanding look.key answer
        collect l stuck left rest
      | none => collect l true outstanding rest

/-- One round: look at every outstanding claim once. -/
def round (b : Backend σ) (l : Limits) (outstanding : List ClaimKey) : Run σ (List ClaimKey) := do
  l.check outstanding
  let (left, looks) ← start b outstanding outstanding
  collect l false left (Look.inOrder looks)

/-- At most `fuel` rounds, each some time after the end of the one before. -/
def rounds (b : Backend σ) (pollInterval : Duration) (l : Limits) :
    (fuel : Nat) → List ClaimKey → Run σ Unit
  | 0, _ => Run.halt .stalled
  | fuel + 1, outstanding => do
    let left ← round b l outstanding
    if left.isEmpty then return ()
    else
      let t ← Run.now
      l.pause left (some (t + pollInterval.nanos))
      rounds b pollInterval l fuel left

/-- The rounds in which no time may pass before a run counts as stalled. -/
def idleRounds : Nat := 1000000

/-- More rounds than can begin before the deadline, some time apart. -/
def roundLimit (pollInterval : Duration) (now deadline : Instant) : Nat :=
  (deadline - now) / max 1 pollInterval.nanos + idleRounds

/-- Look at claims in rounds until all were seen ready, up to a cancellation or a deadline. -/
def awaitUntil (b : Backend σ) (pollInterval : Duration) (signals : Signals) (workspace : String)
    (deadline : Instant) (keys : List ClaimKey) : Run σ Unit := do
  let outstanding := SortedMap.inOrder keys
  if outstanding.isEmpty then return ()
  else
    let t ← Run.now
    rounds b pollInterval ⟨signals, workspace, deadline⟩ (roundLimit pollInterval t deadline)
      outstanding

/-- The instant some time from now, if the clock can hold it. -/
def deadlineIn (timeout : Duration) : Run σ Instant := do
  let t ← Run.now
  match Instant.after? t timeout with
  | some deadline => return deadline
  | none => Run.halt .clockOverflow

/-- Look at claims in rounds until all were seen ready, up to a cancellation or for some time. -/
def await (b : Backend σ) (config : RunConfig) (signals : Signals) (workspace : String)
    (keys : List ClaimKey) : Run σ Unit := do
  let deadline ← deadlineIn config.timeout
  awaitUntil b config.pollInterval signals workspace deadline keys

end Rounds

end NodeProvisioning
