import Dialogue.Number.Binary64
/-!
# Durations

A duration is a number of nanoseconds, and its whole seconds have to fit in 64 bits. Waiting happens
in whole milliseconds: a wait ends with the millisecond in which its duration is over.

## Main definitions

- `Duration`, `Duration.ofSeconds?`, `Duration.wait`
-/

namespace Dialogue

/-- A number of nanoseconds. -/
structure Duration where
  nanoseconds : Nat
  deriving DecidableEq, Repr, Inhabited

namespace Duration

/-- The number of seconds that a duration stays below. -/
def bound : Nat := 2 ^ 64

/-- The duration of a positive finite number of seconds, rounded to nanoseconds; nothing when it is
too long. -/
def ofSeconds? (seconds : Binary64) : Option Duration :=
  let n := seconds.timesRounded (10 ^ 9)
  if n < bound * 10 ^ 9 then some ⟨n⟩ else none

/-- The whole milliseconds of a duration. -/
def milliseconds (d : Duration) : Nat := d.nanoseconds / 10 ^ 6

/-- The milliseconds until the duration is over. -/
def wait (d : Duration) : Nat := (d.nanoseconds + (10 ^ 6 - 1)) / 10 ^ 6

end Duration

end Dialogue
