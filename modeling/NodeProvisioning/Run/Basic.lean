import NodeProvisioning.Backend
import NodeProvisioning.ProvisionError

/-!
# Runs

A run is a computation that calls a backend, lets time pass, and leaves a trace: which calls began
and which answers it took, each with its instant. It ends with a value or halts.

## Main definitions

* `Run` — from a `World` to a result and the world after it
* `World` — the clock, the backend's state and the trace so far
* `Halt` — how a run ends without a value
* `Alarm`, `Run.sleepUntil` — the next of several instants, an earlier place in the list first
* `Run.perform` — begin a call and see it through
-/

namespace NodeProvisioning

/-- What a run leaves in its trace. -/
inductive Event where
  /-- A call began. -/
  | began (time : Instant) (call : Call)
  /-- An answer was taken. -/
  | took (time : Instant) (answer : Answer)

/-- When an event happened. -/
def Event.time : Event → Instant
  | .began t _ => t
  | .took t _ => t

/-- The clock, the backend's state, and what has happened, the latest event first. -/
structure World (σ : Type) where
  now : Instant
  state : σ
  trace : List Event

/-- How a run ends without a value. -/
inductive Halt where
  /-- With an error. -/
  | failed (error : ProvisionError)
  /-- At a deadline later than the clock can hold. -/
  | clockOverflow
  /-- Not at all: it waits for what never comes, or was left alone. -/
  | stalled
deriving DecidableEq, Repr

instance instDecidableEqExcept {ε α : Type} [DecidableEq ε] [DecidableEq α] :
    DecidableEq (Except ε α)
  | .error a, .error b => decidable_of_iff (a = b) ⟨congrArg _, Except.error.inj⟩
  | .ok a, .ok b => decidable_of_iff (a = b) ⟨congrArg _, Except.ok.inj⟩
  | .error _, .ok _ => .isFalse nofun
  | .ok _, .error _ => .isFalse nofun

/-- A computation that calls a backend and lets time pass. -/
def Run (σ α : Type) : Type := World σ → Except Halt α × World σ

namespace Run

variable {σ α β : Type}

instance : Monad (Run σ) where
  pure a := fun w => (.ok a, w)
  bind x f := fun w =>
    match x w with
    | (.ok a, w') => f a w'
    | (.error h, w') => (.error h, w')

@[simp] theorem pure_apply (a : α) (w : World σ) : (pure a : Run σ α) w = (.ok a, w) := rfl

theorem bind_apply (x : Run σ α) (f : α → Run σ β) (w : World σ) :
    (x >>= f) w = match x w with
      | (.ok a, w') => f a w'
      | (.error h, w') => (.error h, w') := rfl

/-- End without a value. -/
def halt (h : Halt) : Run σ α := fun w => (.error h, w)

/-- End with an error. -/
def fail (e : ProvisionError) : Run σ α := halt (.failed e)

/-- The clock. -/
def now : Run σ Instant := fun w => (.ok w.now, w)

/-- Let the backend act on its state. -/
def act (f : σ → σ × α) : Run σ α := fun w =>
  let (s, a) := f w.state
  (.ok a, { w with state := s })

/-- Leave an event of this instant in the trace. -/
def note (f : Instant → Event) : Run σ Unit := fun w =>
  (.ok (), { w with trace := f w.now :: w.trace })

@[simp] theorem halt_apply (h : Halt) (w : World σ) :
    (halt h : Run σ α) w = (.error h, w) := rfl

@[simp] theorem now_apply (w : World σ) : (now : Run σ Instant) w = (.ok w.now, w) := rfl

end Run

/-! ## Waiting -/

/-- An instant that ends a wait, if it ever comes, and what it means. -/
structure Alarm (ω : Type) where
  due : Option Instant
  meaning : ω

namespace Alarm

variable {ω : Type}

/-- The first of several alarms to go off at or after an instant; one that is overdue goes off at
once, and of several at one instant the first in the list counts. -/
def next (now : Instant) : List (Alarm ω) → Option (Instant × ω)
  | [] => none
  | a :: rest =>
    match a.due, next now rest with
    | none, later => later
    | some t, none => some (max now t, a.meaning)
    | some t, some (u, meaning) =>
      if max now t ≤ u then some (max now t, a.meaning) else some (u, meaning)

end Alarm

namespace Run

variable {σ α ω : Type}

/-- Let time pass until the next alarm; without one nothing more happens. -/
def sleepUntil (alarms : List (Alarm ω)) : Run σ ω := fun w =>
  match Alarm.next w.now alarms with
  | some (t, meaning) => (.ok meaning, { w with now := t })
  | none => (.error .stalled, w)

/-- See a call through that has begun: `pause` lets time pass until an instant, or for ever, unless
something else ends the run. -/
def complete (pause : Option Instant → Run σ Unit) (took : α → Answer) :
    Progress σ α → Run σ α
  | .answered a => do
    note fun t => .took t (took a)
    return a
  | .unanswered => do
    pause none
    halt .stalled
  | .waiting delay _ finish => do
    let t ← now
    pause (some (t + delay))
    match ← act finish with
    | some a =>
      note fun t => .took t (took a)
      return a
    | none =>
      pause none
      halt .stalled

/-- Begin a call and see it through. -/
def perform (pause : Option Instant → Run σ Unit) (call : Call) (took : α → Answer)
    (begin : Instant → σ → σ × Progress σ α) : Run σ α := do
  note fun t => .began t call
  let t ← now
  let progress ← act (begin t)
  complete pause took progress

end Run

/-- What may end a run from outside: a cancellation, and the instant from which on nobody looks. -/
structure Signals where
  cancelAt : Option Instant := none
  abandonAt : Option Instant := none

namespace Signals

/-- Whether the cancellation has come. -/
def isCancelled (s : Signals) (now : Instant) : Bool := s.cancelAt.any (· ≤ now)

end Signals

/-- What the end of a wait means. -/
inductive Wake where
  | due
  | cancelled
  | expired
  | abandoned
deriving DecidableEq, Repr

end NodeProvisioning
