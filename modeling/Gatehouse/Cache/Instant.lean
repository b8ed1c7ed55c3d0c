/-!
# Points in time

Freshness is judged by a clock that only moves forward. It counts
nanoseconds, and its seconds have to fit into 63 bits: a lifetime that
leads past the last representable second has no end on this clock.
-/

namespace Gatehouse.Cache

/-- A reading of the clock. -/
structure Instant where
  /-- Nanoseconds since the clock's origin. -/
  nanos : Nat
deriving DecidableEq, Inhabited

namespace Instant

/-- Whole seconds since the clock's origin. -/
def secs (t : Instant) : Nat := t.nanos / 1000000000

/-- The last second of the clock. -/
def maxSecs : Nat := 9223372036854775807

/-- Whether `t` is before `u`. -/
def isBefore (t u : Instant) : Bool := decide (t.nanos < u.nanos)

/-- The instant some seconds later, if the clock reaches it. -/
def later? (t : Instant) (seconds : Nat) : Option Instant :=
  if t.secs + seconds ≤ maxSecs then
    some ⟨t.nanos + seconds * 1000000000⟩
  else none

end Instant

end Gatehouse.Cache
