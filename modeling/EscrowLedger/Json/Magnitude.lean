import EscrowLedger.Decimal.Shortest
import EscrowLedger.Json.Value
import EscrowLedger.Text.Digits

/-!
# How large a number literal is

Readers distinguish integers that fit a machine word from all other numbers, which they take in
double precision. This module decides between the two and writes both down the way messages quote
them.

## Main definitions

* `Json.Number.integer?` — the integer that a literal without point and exponent stands for.
* `Json.Number.float?` — the double-precision number of any other literal, unless it is too large.
* `Json.floatText` — a double-precision number as messages quote it.

## Design notes

The conversion to double precision is the quick one that rounds three times: digits are taken as
long as they fit an unsigned 64-bit word, and one multiplication or division by a power of ten
follows. Digits beyond the word only shift the power.
-/

namespace EscrowLedger.Json

namespace Number

/-- The first number that is too large for an unsigned word of 64 bits. -/
def wordLimit : Nat := 0x10000000000000000

/-- The integer of a literal without point and exponent that fits 64 bits, unsigned or signed. A
zero with a minus sign is no integer. -/
def integer? (n : Number) : Option Int :=
  if n.fraction ≠ [] ∨ n.exponent ≠ none then none
  else if n.negative then
    if 0 < n.whole ∧ n.whole ≤ wordLimit / 2 then some (-(n.whole : Int)) else none
  else if n.whole < wordLimit then some n.whole
  else none

/-- The digits taken into an unsigned 64-bit word, and what follows them. -/
def takeWord : (word : Nat) → List (Fin 10) → Nat × List (Fin 10)
  | word, [] => (word, [])
  | word, d :: rest =>
    if 10 * word + d.val < wordLimit then takeWord (10 * word + d.val) rest else (word, d :: rest)

def wholeDigits (n : Number) : List (Fin 10) :=
  (Nat.toDigits 10 n.whole).filterMap Text.digitValue?

/-- The word and the power of ten that stand for the digits of a literal. -/
def parts (n : Number) : Nat × Int :=
  let whole := takeWord 0 n.wholeDigits
  let fraction := takeWord whole.1 n.fraction
  (fraction.1, (whole.2.length : Int) - (n.fraction.length - fraction.2.length : Nat))

/-- Divides by powers of ten until the power is small enough for one step; `none` if the number is
too large. -/
def scale : (fuel : Nat) → Float → Int → Option Float
  | 0, f, _ => some f
  | fuel + 1, f, power =>
    if power.natAbs ≤ 308 then
      if 0 ≤ power then
        let scaled := f * Float.ofScientific 1 false power.natAbs
        if scaled.isInf then none else some scaled
      else some (f / Float.ofScientific 1 false power.natAbs)
    else if f == 0.0 then some f
    else if 0 ≤ power then none
    else scale fuel (f / 1e308) (power + 308)

/-- The double-precision number of a literal, without its sign, unless it is too large. -/
def float? (n : Number) : Option Float :=
  let p := n.parts
  scale 8 (Float.ofNat p.1) (p.2 + n.exponent.getD 0)

end Number

/-- A double-precision number as messages quote it: positional if the point stands within the
first seventeen places or within five zeros, otherwise with an exponent and its sign. -/
def floatText (negative : Bool) (x : Float) : List Char :=
  let sign := if negative then ['-'] else []
  if x == 0.0 then sign ++ ['0', '.', '0']
  else
    let decimal := Decimal.ofFloat x
    let digits := Nat.toDigits 10 decimal.1
    let point : Int := digits.length + decimal.2
    sign ++
      if 0 ≤ decimal.2 ∧ point ≤ 16 then
        digits ++ List.replicate decimal.2.toNat '0' ++ ['.', '0']
      else if 0 < point ∧ point ≤ 16 then
        digits.take point.toNat ++ '.' :: digits.drop point.toNat
      else if -5 < point ∧ point ≤ 0 then
        '0' :: '.' :: List.replicate (-point).toNat '0' ++ digits
      else
        let power := 'e' :: (if point < 1 then '-' else '+') :: Nat.toDigits 10 (point - 1).natAbs
        match digits with
        | [d] => d :: power
        | d :: rest => d :: '.' :: rest ++ power
        | [] => []

end EscrowLedger.Json
