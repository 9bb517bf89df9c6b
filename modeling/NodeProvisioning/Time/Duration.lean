import NodeProvisioning.Decimal.Power

/-!
# Durations and instants

A duration is a natural number of nanoseconds, an instant the duration since the clock's origin. A
clock holds no instant later than `2 ^ 63 - 1` whole seconds after its origin.

## Main definitions

* `Duration` — with `ofSeconds`, `ofMillis`, and the parts `seconds` and `subsecond`
* `Instant.after?` — the instant some time later, if the clock can hold it
-/

namespace NodeProvisioning

/-- A length of time in nanoseconds. -/
structure Duration where
  nanos : Nat
deriving DecidableEq, Repr

namespace Duration

/-- Nanoseconds in a second. -/
def nanosPerSecond : Nat := 1000000000

/-- Nanoseconds in a millisecond. -/
def nanosPerMilli : Nat := 1000000

/-- No time at all. -/
def zero : Duration := ⟨0⟩

/-- A number of whole seconds. -/
def ofSeconds (n : Nat) : Duration := ⟨n * nanosPerSecond⟩

/-- A number of whole milliseconds. -/
def ofMillis (n : Nat) : Duration := ⟨n * nanosPerMilli⟩

/-- The longest duration: `2 ^ 64 - 1` seconds and the last nanosecond before the next. -/
def max : Duration := ⟨twoTo 64 * nanosPerSecond - 1⟩

/-- The whole seconds of a duration. -/
def seconds (d : Duration) : Nat := d.nanos / nanosPerSecond

/-- The nanoseconds beyond the whole seconds. -/
def subsecond (d : Duration) : Nat := d.nanos % nanosPerSecond

/-- Whether no time passes. -/
def isZero (d : Duration) : Bool := d.nanos = 0

@[simp] theorem seconds_ofSeconds (n : Nat) : (ofSeconds n).seconds = n := by
  simp [seconds, ofSeconds, nanosPerSecond]

@[simp] theorem subsecond_ofSeconds (n : Nat) : (ofSeconds n).subsecond = 0 := by
  simp [subsecond, ofSeconds]

end Duration

/-- A point in time, in nanoseconds after the clock's origin. -/
abbrev Instant := Nat

namespace Instant

/-- The last whole second that a clock can hold. -/
def lastSecond : Nat := twoTo 63 - 1

/-- The instant a duration later, if the clock can hold it. -/
def after? (now : Instant) (d : Duration) : Option Instant :=
  if now + d.nanos < (lastSecond + 1) * Duration.nanosPerSecond then some (now + d.nanos) else none

end Instant

end NodeProvisioning
