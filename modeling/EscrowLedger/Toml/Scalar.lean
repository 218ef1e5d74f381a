import EscrowLedger.Instant.Calendar
import EscrowLedger.Toml.Text

/-!
# Numbers and dates of settings files

Readers for the plain values of TOML: integers in four bases that fit 64 bits, floating-point
numbers, dates and times. The program that reads settings has no use for their values, so these
readers only say where such a value ends.

## Main definitions

* `Toml.number?` — integers and floating-point numbers.
* `Toml.date?` — dates, times, and both together.
-/

namespace EscrowLedger.Toml

def digitRun? (isDigit : Char → Bool) : Reader (List Char)
  | c :: '_' :: rest => if isDigit c then consOf c (digitRun? isDigit rest) else none
  | c :: rest =>
    if isDigit c then
      match rest with
      | d :: _ => if isDigit d then consOf c (digitRun? isDigit rest) else some ([c], rest)
      | [] => some ([c], [])
    else none
  | [] => none

def decimalRun? : Reader (List Char)
  | '0' :: rest => some (['0'], rest)
  | cs => digitRun? Char.isDigit cs

def valueOf (base : Nat) (ds : List Char) : Nat :=
  ds.foldl (fun n c => base * n + ((Text.hexValue? c).map (·.val)).getD 0) 0

/-- The first number that is too large for a signed integer of 64 bits. -/
def integerLimit : Nat := 0x8000000000000000

/-- Digits of a base after its mark, if the number fits 64 bits. -/
def based? (base : Nat) (cs : List Char) : Option (List Char) := do
  let isDigit (c : Char) : Bool := (Text.hexValue? c).any fun d => decide (d.val < base)
  let (ds, rest) ← digitRun? isDigit cs
  if valueOf base ds < integerLimit then some rest else none

def exponent? : Reader Int
  | e :: rest =>
    if e = 'e' ∨ e = 'E' then
      match rest with
      | '-' :: rest => (digitRun? Char.isDigit rest).map fun r => (-(valueOf 10 r.1 : Int), r.2)
      | '+' :: rest => (digitRun? Char.isDigit rest).map fun r => ((valueOf 10 r.1 : Int), r.2)
      | _ => (digitRun? Char.isDigit rest).map fun r => ((valueOf 10 r.1 : Int), r.2)
    else none
  | [] => none

/-- Whether digits with a power of ten behind them exceed all double-precision numbers. -/
def isTooLarge (ds : List Char) (power : Int) : Bool :=
  let n := valueOf 10 ds
  let leading := (Nat.toDigits 10 n).length + power
  if n = 0 || leading < 300 then false
  else if 320 < leading then true
  else
    decide ((Nat.pow 2 1024 - Nat.pow 2 970) * Nat.pow 10 (-power).toNat
      ≤ n * Nat.pow 10 power.toNat)

def decimal? (negative : Bool) (cs : List Char) : Option (List Char) := do
  let (whole, rest) ← decimalRun? cs
  let float (fraction : List Char) (power : Int) (rest : List Char) : Option (List Char) :=
    if !negative && isTooLarge (whole ++ fraction) (power - fraction.length) then none
    else some rest
  match rest with
  | '.' :: rest => do
    let (fraction, rest) ← digitRun? Char.isDigit rest
    match exponent? rest with
    | some (power, rest) => float fraction power rest
    | none =>
      if rest.head? = some 'e' || rest.head? = some 'E' then none else float fraction 0 rest
  | _ =>
    match exponent? rest with
    | some (power, rest) => float [] power rest
    | none =>
      if rest.head? = some 'e' || rest.head? = some 'E' then none
      else
        let limit := if negative then integerLimit else integerLimit - 1
        if valueOf 10 whole ≤ limit then some rest else none

def unsigned? (negative : Bool) : List Char → Option (List Char)
  | 'i' :: 'n' :: 'f' :: rest => some rest
  | 'n' :: 'a' :: 'n' :: rest => some rest
  | cs => decimal? negative cs

def number? : List Char → Option (List Char)
  | '+' :: rest => unsigned? false rest
  | '-' :: rest => unsigned? true rest
  | '0' :: 'x' :: rest => based? 16 rest
  | '0' :: 'o' :: rest => based? 8 rest
  | '0' :: 'b' :: rest => based? 2 rest
  | cs => unsigned? false cs

/-- A number of exactly the given count of digits. -/
def fixed? (count : Nat) (cs : List Char) : Option (Nat × List Char) :=
  let run := Text.takeDigits count cs
  if run.1.length = count then some (Nat.ofDigitChars 10 run.1 0, run.2) else none

def mark? (c : Char) : List Char → Option (List Char)
  | d :: rest => if d = c then some rest else none
  | [] => none

def time? (cs : List Char) : Option (List Char) := do
  let (hour, cs) ← fixed? 2 cs
  let cs ← mark? ':' cs
  let (minute, cs) ← fixed? 2 cs
  let cs ← mark? ':' cs
  let (second, cs) ← fixed? 2 cs
  if hour < 24 ∧ minute < 60 ∧ second ≤ 60 then
    match cs with
    | '.' :: rest =>
      let later := rest.dropWhile Char.isDigit
      if later.length < rest.length then some later else none
    | _ => some cs
  else none

/-- What follows an offset of local time; nothing need stand there. -/
def offset? : List Char → Option (List Char)
  | c :: rest =>
    if c = 'Z' ∨ c = 'z' then some rest
    else if c = '+' ∨ c = '-' then do
      let (hours, cs) ← fixed? 2 rest
      let cs ← mark? ':' cs
      let (minutes, cs) ← fixed? 2 cs
      if hours < 24 ∧ minutes < 60 then some cs else none
    else some (c :: rest)
  | [] => some []

def day? (cs : List Char) : Option (List Char) := do
  let (year, cs) ← fixed? 4 cs
  let cs ← mark? '-' cs
  let (month, cs) ← fixed? 2 cs
  let cs ← mark? '-' cs
  let (day, cs) ← fixed? 2 cs
  if Date.isValid ⟨year, month, day⟩ then some cs else none

/-- What follows a date, a time, or both. A blank parts date and time only if a time follows it. -/
def date? (cs : List Char) : Option (List Char) :=
  match day? cs with
  | some (c :: rest) =>
    if c = 'T' ∨ c = 't' then time? rest >>= offset?
    else if c = ' ' ∧ (rest.head?.map Char.isDigit).getD false then time? rest >>= offset?
    else some (c :: rest)
  | some [] => some []
  | none => time? cs

end EscrowLedger.Toml
