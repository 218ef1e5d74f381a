/-!
# Shortest decimals of binary numbers

A double-precision number is written with the fewest decimal digits that read back as the same
number, and among those with the digits nearest to it. All arithmetic is exact.

## Main definitions

* `Decimal.Interval` — a number together with the interval of reals that round to it.
* `Decimal.shortest` — the shortest digits inside such an interval.
* `Decimal.ofFloat` — digits and power of ten of a positive finite number.

## Design notes

For each count of digits only two points of the decimal grid can be the answer, the neighbours of
the number. Seventeen digits always suffice.
-/

namespace EscrowLedger.Decimal

/-- A positive number and the reals that round to it, as numerators over one denominator. -/
structure Interval where
  low : Nat
  middle : Nat
  high : Nat
  denominator : Nat
  /-- Whether the two ends round to the number as well. -/
  closed : Bool

/-- The interval of `mantissa * 2 ^ exponent`. The gap below a power of two is half as wide, unless
the number has the least exponent. -/
def Interval.ofBinary (mantissa : Nat) (exponent : Int) (lowest : Bool) : Interval :=
  let gap := if mantissa = Nat.pow 2 52 && !lowest then 1 else 2
  let scale := Nat.pow 2 exponent.toNat
  ⟨(4 * mantissa - gap) * scale, 4 * mantissa * scale, (4 * mantissa + 2) * scale,
    4 * Nat.pow 2 (-exponent).toNat, mantissa % 2 = 0⟩

def leadingPower (numerator denominator : Nat) : Int :=
  if denominator ≤ numerator then
    (Nat.toDigits 10 (numerator / denominator)).length - 1
  else
    let k := (Nat.toDigits 10 (denominator / numerator)).length - 1
    if denominator ≤ numerator * Nat.pow 10 k then -k else -(k + 1)

/-- Whether the grid point `digits * 10 ^ power` lies in the interval. -/
def Interval.holds (i : Interval) (digits : Nat) (power : Int) : Bool :=
  let point := digits * Nat.pow 10 power.toNat * i.denominator
  let scale := Nat.pow 10 (-power).toNat
  if i.closed then i.low * scale ≤ point && point ≤ i.high * scale
  else i.low * scale < point && point < i.high * scale

/-- The answer with the given count of digits, if the interval holds one: of two neighbours the
nearer one, of two equally near ones the even one. -/
def Interval.withDigits? (i : Interval) (count : Nat) : Option (Nat × Int) :=
  let power := leadingPower i.middle i.denominator - (count - 1 : Nat)
  let unit := Nat.pow 10 power.toNat * i.denominator
  let scaled := i.middle * Nat.pow 10 (-power).toNat
  let below := scaled / unit
  let twice := 2 * (scaled % unit)
  let preferAbove := unit < twice || (twice = unit && below % 2 = 1)
  match i.holds below power, i.holds (below + 1) power with
  | true, true => some (if preferAbove then below + 1 else below, power)
  | true, false => some (below, power)
  | false, true => some (below + 1, power)
  | false, false => none

/-- Moves trailing zeros of the digits into the power of ten; `fuel` bounds their count. -/
def dropZeros : (fuel : Nat) → Nat × Int → Nat × Int
  | 0, d => d
  | fuel + 1, (digits, power) =>
    if digits % 10 = 0 && digits ≠ 0 then dropZeros fuel (digits / 10, power + 1)
    else (digits, power)

def Interval.shortest (i : Interval) : Nat × Int :=
  dropZeros 20 (((List.range 17).findSome? fun n => i.withDigits? (n + 1)).getD (0, 0))

/-- The shortest digits of a positive finite double-precision number, and their power of ten. -/
def ofFloat (x : Float) : Nat × Int :=
  let bits := x.toBits.toNat
  let biased : Nat := bits / Nat.pow 2 52 % Nat.pow 2 11
  let rest : Nat := bits % Nat.pow 2 52
  if biased = 0 then (Interval.ofBinary rest (-1074) true).shortest
  else (Interval.ofBinary (Nat.pow 2 52 + rest) ((biased : Int) - 1075) (biased = 1)).shortest

end EscrowLedger.Decimal
