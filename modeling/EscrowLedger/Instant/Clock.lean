import EscrowLedger.Instant.Step

/-!
# Clocks

A clock that moves only when it is told to. A move that would leave the range of instants fails, and
the clock reads afterwards what it read before.

## Main definitions

* `Clock` — what the clock reads.
* `Clock.set`, `Clock.advance` — how it is moved.
* `ClockError` — why it is not.
-/

namespace EscrowLedger

/-- A clock that is moved by hand. -/
structure Clock where
  now : Instant
deriving DecidableEq, Inhabited

/-- Why a clock is not moved. -/
inductive ClockError where
  /-- The move ends before the first instant or after the last one. -/
  | outOfRange
deriving DecidableEq

def ClockError.message : ClockError → String
  | .outOfRange => "`DateTime + TimeDelta` overflowed"

namespace Clock

def set (_ : Clock) (now : Instant) : Clock := ⟨now⟩

/-- Moves a clock by `delta` nanoseconds, back if the number is negative. -/
def advance (c : Clock) (delta : Int) : Except ClockError Unit × Clock :=
  match c.now.step delta with
  | some now => (.ok (), ⟨now⟩)
  | none => (.error .outOfRange, c)

end Clock

end EscrowLedger
