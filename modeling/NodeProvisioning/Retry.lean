import NodeProvisioning.RequestError
import NodeProvisioning.Time.Duration

/-!
# Retrying with backoff

An operation is tried again after errors that may pass, with a delay that is multiplied after each
try up to a cap. Each sleep is the delay times a factor around one, so that several clients do not
wake at the same instant.

## Main definitions

* `RetryConfig` — how often, and how long in between
* `Retry.nextDelay` — the delay after the next try
* `Retry.run` — try an operation, looking at no more than some number of tries
* `Retry.Report` — the result with the number of tries and the sleeps between them

## Design notes

Delays are exact rational numbers of seconds. The multiplier is a number of a floating-point format,
so it may also be infinite or not a number at all; the cap then decides.

The tries are counted in a word of 32 bits, in which `RetryConfig.maxAttempts` is a number too.
After the last number of the word the count goes on from zero.
-/

namespace NodeProvisioning

/-- What a delay is multiplied by. -/
inductive Multiplier where
  | finite (factor : Rat)
  | infinite (negative : Bool)
  | notANumber
deriving DecidableEq

/-- How often an operation is tried, and how long the delays are. -/
structure RetryConfig where
  /-- The most tries, a number of 32 bits; zero means without end. -/
  maxAttempts : Nat := 0
  initialDelay : Duration := .ofMillis 100
  maxDelay : Duration := .ofSeconds 30
  multiplier : Multiplier := .finite 2

/-- A duration in seconds. -/
def Duration.toRat (d : Duration) : Rat := (d.nanos : Rat) / (Duration.nanosPerSecond : Rat)

namespace Retry

/-- The lesser of two numbers. -/
def atMost (cap x : Rat) : Rat := if x ≤ cap then x else cap

/-- Half the least positive number of the floating-point format: nothing closer to zero is told
apart from it. -/
def leastHalf : Rat := 1 / (twoTo 1075 : Nat)

/-- The delay after one more try, at most the cap; there is none where it would be negative. -/
def nextDelay (m : Multiplier) (cap delay : Rat) : Option Rat :=
  match m with
  | .finite factor =>
    let next := atMost cap (delay * factor)
    if 0 ≤ next then some next else if -leastHalf ≤ next then some 0 else none
  | .infinite negative => if negative ∧ delay ≠ 0 then none else some cap
  | .notANumber => some cap

/-- How a retried operation ends. -/
inductive Ending (ε α : Type) where
  /-- With the result of the last try. -/
  | returned (result : Except ε α)
  /-- With a delay that cannot be slept. -/
  | negativeDelay
deriving Repr

/-- A retried operation: how it ended, how often it was tried, and the sleeps, first to last. -/
structure Report (ε α : Type) where
  ending : Ending ε α
  attempts : Nat
  sleeps : List Rat

/-- Whether the result of a try is the last. -/
def stops {ε α : Type} (maxAttempts : Nat) (shouldRetry : ε → Bool) (attempt : Nat) :
    Except ε α → Bool
  | .ok _ => true
  | .error e => !shouldRetry e || (maxAttempts ≠ 0 && maxAttempts ≤ attempt)

/-- Go on trying an operation, with the count of the tries, the delay and the sleeps so far, the
latest first. Between two tries there is one sleep. -/
def runFrom {σ ε α : Type} (config : RetryConfig) (shouldRetry : ε → Bool) (jitter : Nat → Rat)
    (operation : σ → σ × Except ε α) :
    (fuel : Nat) → (attempt : UInt32) → (delay : Rat) → (sleeps : List Rat) → σ →
      σ × Option (Report ε α)
  | 0, _, _, _, s => (s, none)
  | fuel + 1, attempt, delay, sleeps, s =>
    let attempt := attempt + 1
    let tries := sleeps.length + 1
    let (s, result) := operation s
    if stops config.maxAttempts shouldRetry attempt.toNat result then
      (s, some ⟨.returned result, tries, sleeps.reverse⟩)
    else
      let sleeps := delay * jitter tries :: sleeps
      match nextDelay config.multiplier config.maxDelay.toRat delay with
      | none => (s, some ⟨.negativeDelay, tries, sleeps.reverse⟩)
      | some delay => runFrom config shouldRetry jitter operation fuel attempt delay sleeps s

/-- Try an operation until a result is the last, looking at `fuel` tries at most. -/
def run {σ ε α : Type} (config : RetryConfig) (shouldRetry : ε → Bool) (jitter : Nat → Rat)
    (operation : σ → σ × Except ε α) (fuel : Nat) (s : σ) : σ × Option (Report ε α) :=
  runFrom config shouldRetry jitter operation fuel 0 config.initialDelay.toRat [] s

end Retry

end NodeProvisioning
