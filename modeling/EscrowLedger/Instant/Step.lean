import EscrowLedger.Instant.Basic

/-!
# Stepping an instant

Moves an instant by a signed number of nanoseconds. A step that stays inside a leap second moves its
nanoseconds. A step that leaves a leap second forwards starts from the second that it extends, and
one that leaves it backwards by a second or more starts from the second after it.

## Main definitions

* `Instant.step` — the instant after a step, unless it would leave the range.
-/

namespace EscrowLedger.Instant

/-- The instant of a second and of nanoseconds that may lie in the seconds next to it. -/
def settle (second nano : Int) : Option Instant :=
  if nano < 0 then ofParts? (second - 1) (nano + nanosPerSecond).toNat
  else if nanosPerSecond ≤ nano then ofParts? (second + 1) (nano - nanosPerSecond).toNat
  else ofParts? second nano.toNat

/-- The instant after a step of `delta` nanoseconds, unless it would leave the range. -/
def step (i : Instant) (delta : Int) : Option Instant :=
  let seconds := delta.tdiv nanosPerSecond
  let rest := delta.tmod nanosPerSecond
  if i.isLeap then
    if 0 < seconds ∨ (0 < rest ∧ 2 * nanosPerSecond ≤ i.nano + rest) then
      settle (i.second + seconds) (i.nano - nanosPerSecond + rest)
    else if seconds < 0 then settle (i.second + 1 + seconds) (i.nano - nanosPerSecond + rest)
    else ofParts? i.second (i.nano + rest).toNat
  else settle (i.second + seconds) (i.nano + rest)

end EscrowLedger.Instant
