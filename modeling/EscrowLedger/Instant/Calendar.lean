/-!
# The calendar

Dates of the Gregorian calendar, carried on without end in both directions, and the numbers of their
days counted from 1970-01-01. Year 0 is the year before year 1.

## Main definitions

* `Date` — year, month and day of the month; `Date.isValid` says whether there is such a date.
* `Date.dayNumber` and `Date.ofDayNumber` — between dates and day numbers.

## Main statements

* `Date.dayNumber_ofDayNumber`, `Date.isValid_ofDayNumber` — every day number has a valid date,
  which leads back to it.
-/

namespace EscrowLedger

/-- A year, a month from 1 on and a day of the month from 1 on. -/
structure Date where
  year : Int
  month : Nat
  day : Nat
deriving DecidableEq

namespace Date

def isLeapYear (y : Int) : Bool := y % 4 = 0 && (y % 100 ≠ 0 || y % 400 = 0)

def monthLengths (leap : Bool) : List Nat :=
  [31, if leap then 29 else 28, 31, 30, 31, 30, 31, 31, 30, 31, 30, 31]

def total : List Nat → Nat
  | [] => 0
  | length :: rest => length + total rest

/-- The number of days from 0000-01-01 to the first day of a year. -/
def yearStart (y : Int) : Int := 365 * y + (y + 3) / 4 - (y + 99) / 100 + (y + 399) / 400

def epoch : Int := 719528

/-- Splits a day of the year, counted from 0, into month and day of the month, counted from 0. -/
def splitDay : List Nat → Nat → Nat × Nat
  | [], n => (0, n)
  | length :: rest, n =>
    if n < length then (0, n)
    else
      let later := splitDay rest (n - length)
      (later.1 + 1, later.2)

/-- The year of a day counted from 0000-01-01. The mean length of a year leads to it or to the year
after it. -/
def yearOf (z : Int) : Int :=
  let guess := 400 * z / 146097 + 1
  if yearStart guess ≤ z then guess
  else if yearStart (guess - 1) ≤ z then guess - 1
  else guess - 2

def isValid (d : Date) : Bool :=
  1 ≤ d.month && 1 ≤ d.day
    && match (monthLengths (isLeapYear d.year))[d.month - 1]? with
      | some length => d.day ≤ length
      | none => false

def dayNumber (d : Date) : Int :=
  yearStart d.year
    + (total ((monthLengths (isLeapYear d.year)).take (d.month - 1)) + (d.day - 1) : Nat) - epoch

def ofDayNumber (n : Int) : Date :=
  let z := n + epoch
  let y := yearOf z
  let inYear := splitDay (monthLengths (isLeapYear y)) (z - yearStart y).toNat
  ⟨y, inYear.1 + 1, inYear.2 + 1⟩

/-- A year starts as many days after the year before it as that year has. -/
theorem yearStart_add_one (y : Int) :
    yearStart (y + 1) = yearStart y + total (monthLengths (isLeapYear y)) := by
  have hsum : ∀ leap, (total (monthLengths leap) : Int) = if leap then 366 else 365 := by
    intro leap
    cases leap <;> rfl
  rw [hsum]
  simp only [yearStart, isLeapYear]
  by_cases h₄ : y % 4 = 0 <;> by_cases h₁₀₀ : y % 100 = 0 <;> by_cases h₄₀₀ : y % 400 = 0 <;>
    simp [h₄, h₁₀₀, h₄₀₀] <;> omega

/-- The year of a day starts no later than the day, and the next year starts after it. -/
theorem yearOf_spec (z : Int) : yearStart (yearOf z) ≤ z ∧ z < yearStart (yearOf z + 1) := by
  simp only [yearOf]
  generalize hg : 400 * z / 146097 + 1 = guess
  split
  · next h =>
    refine ⟨h, ?_⟩
    simp only [yearStart] at *
    omega
  · next h =>
    split
    · next h' => exact ⟨h', by rw [Int.sub_add_cancel]; omega⟩
    · next h' =>
      rw [show guess - 2 + 1 = guess - 1 by omega]
      refine ⟨?_, by omega⟩
      simp only [yearStart] at *
      omega

theorem total_splitDay (lengths : List Nat) (n : Nat) :
    total (lengths.take (splitDay lengths n).1) + (splitDay lengths n).2 = n := by
  induction lengths generalizing n with
  | nil => simp [splitDay, total]
  | cons length rest ih =>
    rw [splitDay]
    split
    · simp [total]
    · next h =>
      have := ih (n - length)
      simp only [List.take_succ_cons, total]
      omega

theorem splitDay_lt (lengths : List Nat) {n : Nat} (h : n < total lengths) :
    ∃ length, lengths[(splitDay lengths n).1]? = some length ∧ (splitDay lengths n).2 < length := by
  induction lengths generalizing n with
  | nil => simp [total] at h
  | cons length rest ih =>
    rw [splitDay]
    split
    · next hn => exact ⟨length, by simp, hn⟩
    · next hn =>
      have := ih (n := n - length) (by simp only [total] at h; omega)
      simpa using this

@[simp] theorem dayNumber_ofDayNumber (n : Int) : (ofDayNumber n).dayNumber = n := by
  have hy := yearOf_spec (n + epoch)
  have hs := total_splitDay (monthLengths (isLeapYear (yearOf (n + epoch))))
    (n + epoch - yearStart (yearOf (n + epoch))).toNat
  simp only [ofDayNumber, dayNumber, Nat.add_sub_cancel, hs]
  omega

@[simp] theorem isValid_ofDayNumber (n : Int) : (ofDayNumber n).isValid = true := by
  have hy := yearOf_spec (n + epoch)
  rw [yearStart_add_one] at hy
  obtain ⟨length, hget, hlt⟩ := splitDay_lt (monthLengths (isLeapYear (yearOf (n + epoch))))
    (n := (n + epoch - yearStart (yearOf (n + epoch))).toNat) (by omega)
  simp only [ofDayNumber, isValid, Nat.add_sub_cancel, hget]
  simpa [Nat.succ_le_iff] using hlt

end Date

end EscrowLedger
