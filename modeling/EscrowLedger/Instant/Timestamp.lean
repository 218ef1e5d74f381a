import EscrowLedger.Instant.Basic
import EscrowLedger.Text.Digits
import EscrowLedger.Text.Space

/-!
# Timestamps

An instant is written in universal time, with no more digits of the fraction than it needs of none,
three, six or nine. Years outside four digits carry a sign. A leap second is written with the number
of the second after the one that it extends, whether or not this number is 60.

The reader is more generous. It accepts white space before every number and before the separators
of date and time, numbers of one digit, any offset below a day with any mixture of colons and white
space inside, and any count of digits in the fraction, of which nine are kept.

## Main definitions

* `Instant.toText` — the timestamp of an instant.
* `Instant.describe` — the same as messages have it, with blanks and the name of the zone.
* `Instant.ofText?` — the instant of a timestamp.
-/

namespace EscrowLedger

/-- What a timestamp says: a local date and time and the offset of local time. -/
structure Timestamp where
  date : Date
  hour : Nat
  minute : Nat
  /-- Up to 60, which stands for a leap second. -/
  second : Nat
  nano : Nat
  /-- How many seconds local time is ahead of universal time. -/
  offset : Int

namespace Timestamp

/-- The instant that a timestamp names, if its date and time exist. -/
def instant? (t : Timestamp) : Option Instant :=
  if t.date.isValid && firstYear ≤ t.date.year && t.date.year ≤ lastYear && t.hour < 24
      && t.minute < 60 && t.second ≤ 60 && t.offset.natAbs < 86400 then
    let leap := t.second = 60
    let inDay : Nat := 3600 * t.hour + 60 * t.minute + (if leap then 59 else t.second)
    Instant.ofParts? (86400 * t.date.dayNumber + inDay - t.offset)
      (t.nano + (if leap then nanosPerSecond else 0))
  else none

def number? (limit : Nat) (cs : List Char) : Option (Nat × List Char) :=
  match Text.takeDigits limit (Text.skipSpaces cs) with
  | ([], _) => none
  | (ds, rest) => some (Nat.ofDigitChars 10 ds 0, rest)

/-- A number of any count of digits, without white space before it. -/
def unboundedNumber? (cs : List Char) : Option (Nat × List Char) :=
  match Text.takeDigits cs.length cs with
  | ([], _) => none
  | (ds, rest) => some (Nat.ofDigitChars 10 ds 0, rest)

/-- A year: up to four digits, or a sign and any count of digits. -/
def year? (cs : List Char) : Option (Int × List Char) :=
  match Text.skipSpaces cs with
  | '-' :: rest => (unboundedNumber? rest).map fun r => (-(r.1 : Int), r.2)
  | '+' :: rest => (unboundedNumber? rest).map fun r => ((r.1 : Int), r.2)
  | _ => (number? 4 cs).map fun r => ((r.1 : Int), r.2)

def separator? (c : Char) (cs : List Char) : Option (List Char) :=
  match Text.skipSpaces cs with
  | d :: rest => if d = c then some rest else none
  | [] => none

def timeMark? : List Char → Option (List Char)
  | c :: rest => if c = 'T' ∨ c = 't' ∨ c = ' ' then some rest else none
  | [] => none

/-- The nanoseconds of a fraction, if a point follows. -/
def fraction? : List Char → Option (Nat × List Char)
  | '.' :: rest =>
    match Text.takeDigits 9 rest with
    | ([], _) => none
    | (ds, rest) =>
      some (Nat.ofDigitChars 10 ds 0 * Nat.pow 10 (9 - ds.length), rest.dropWhile Char.isDigit)
  | cs => some (0, cs)

def twoDigits? : List Char → Option (Nat × List Char)
  | a :: b :: rest =>
    match Text.digitValue? a, Text.digitValue? b with
    | some x, some y => some (10 * x.val + y.val, rest)
    | _, _ => none
  | _ => none

def offsetSize? (cs : List Char) : Option (Int × List Char) := do
  let (hours, cs) ← twoDigits? cs
  let (minutes, cs) ← twoDigits? (cs.dropWhile fun c => c = ':' || Text.isSpace c)
  if minutes < 60 then some ((3600 * hours + 60 * minutes : Nat), cs) else none

/-- The offset of local time: a name of universal time, or a sign and a size. -/
def offset? (cs : List Char) : Option (Int × List Char) :=
  match Text.skipSpaces cs with
  | u :: t :: c :: rest =>
    if u.toUpper = 'U' ∧ t.toUpper = 'T' ∧ c.toUpper = 'C' then some (0, rest)
    else numeric (u :: t :: c :: rest)
  | cs => numeric cs
where
  /-- An offset that is not the name of universal time. -/
  numeric : List Char → Option (Int × List Char)
    | c :: rest =>
      if c = 'Z' ∨ c = 'z' then some (0, rest)
      else if c = '+' then offsetSize? rest
      else if c = '-' ∨ c = '\u2212' then (offsetSize? rest).map fun r => (-r.1, r.2)
      else none
    | [] => none

def ofChars? (cs : List Char) : Option Timestamp := do
  let (year, cs) ← year? cs
  let cs ← separator? '-' cs
  let (month, cs) ← number? 2 cs
  let cs ← separator? '-' cs
  let (day, cs) ← number? 2 cs
  let cs ← timeMark? cs
  let (hour, cs) ← number? 2 cs
  let cs ← separator? ':' cs
  let (minute, cs) ← number? 2 cs
  let cs ← separator? ':' cs
  let (second, cs) ← number? 2 cs
  let (nano, cs) ← fraction? cs
  let (offset, cs) ← offset? cs
  if (Text.skipSpaces cs).isEmpty then
    some ⟨⟨year, month, day⟩, hour, minute, second, nano, offset⟩
  else none

end Timestamp

namespace Instant

def ofText? (s : String) : Option Instant := do
  let t ← Timestamp.ofChars? s.toList
  t.instant?

/-- A year: four digits, or a sign and at least four digits. -/
def yearChars (y : Int) : List Char :=
  if 0 ≤ y ∧ y ≤ 9999 then Text.padded 4 y.toNat
  else (if y < 0 then '-' else '+') :: Text.padded 4 y.natAbs

/-- The digits of a fraction of a second that are needed, with the point. -/
def fractionChars (nano : Nat) : List Char :=
  if nano = 0 then []
  else if nano % 1000000 = 0 then '.' :: Text.padded 3 (nano / 1000000)
  else if nano % 1000 = 0 then '.' :: Text.padded 6 (nano / 1000)
  else '.' :: Text.padded 9 nano

/-- Date and time with the given sign between them and the given name of the zone. -/
def chars (between : Char) (zone : List Char) (i : Instant) : List Char :=
  let date := i.date
  let time := i.secondOfDay
  yearChars date.year ++ '-' :: (Text.padded 2 date.month ++ '-' :: (Text.padded 2 date.day
    ++ between :: (Text.padded 2 (time / 3600) ++ ':' :: (Text.padded 2 (time / 60 % 60)
    ++ ':' :: (Text.padded 2 (time % 60 + if i.isLeap then 1 else 0)
    ++ (fractionChars (i.nano % nanosPerSecond) ++ zone))))))

def toText (i : Instant) : String := String.ofList (i.chars 'T' ['Z'])

def describe (i : Instant) : String := String.ofList (i.chars ' ' [' ', 'U', 'T', 'C'])

end Instant

end EscrowLedger
