import EscrowLedger.Instant.Calendar

/-!
# Instants

A point in time, exact to the nanosecond, on the clock of universal time. A leap second belongs to
the second before it: its nanoseconds run from one thousand million to two thousand million. Any
second may be extended like that, not only the last one of a minute. Instants are ordered by second,
then by nanosecond, so a leap second comes after the second it extends and before the next one.

## Main definitions

* `Instant` — second since 1970-01-01T00:00:00Z and nanosecond, inside the range of dates.
* `Instant.ofParts?` — the instant of a second and a nanosecond, if there is one.
-/

namespace EscrowLedger

def nanosPerSecond : Nat := 1000000000

/-- The first year that has instants. -/
def firstYear : Int := -262143

/-- The last year that has instants. -/
def lastYear : Int := 262142

/-- The first second of the first year. -/
def firstSecond : Int := -8334601228800

/-- The last second of the last year. -/
def lastSecond : Int := 8210266876799

/-- A point in time. -/
structure Instant where
  /-- The seconds since 1970-01-01T00:00:00Z, leap seconds not counted. -/
  second : Int
  /-- The nanoseconds since the start of the second. -/
  nano : Nat
  nano_lt : nano < 2 * nanosPerSecond
  firstSecond_le : firstSecond ≤ second
  le_lastSecond : second ≤ lastSecond
deriving DecidableEq

namespace Instant

/-- The instant of a second and a nanosecond, if there is one. -/
def ofParts? (second : Int) (nano : Nat) : Option Instant :=
  if h : nano < 2 * nanosPerSecond ∧ firstSecond ≤ second ∧ second ≤ lastSecond then
    some ⟨second, nano, h.1, h.2.1, h.2.2⟩
  else none

def epoch : Instant := ⟨0, 0, by decide, by decide, by decide⟩

instance : Inhabited Instant := ⟨epoch⟩

instance : LE Instant :=
  ⟨fun a b => a.second < b.second ∨ (a.second = b.second ∧ a.nano ≤ b.nano)⟩

instance : LT Instant :=
  ⟨fun a b => a.second < b.second ∨ (a.second = b.second ∧ a.nano < b.nano)⟩

theorem le_def {a b : Instant} :
    a ≤ b ↔ a.second < b.second ∨ (a.second = b.second ∧ a.nano ≤ b.nano) := Iff.rfl

theorem lt_def {a b : Instant} :
    a < b ↔ a.second < b.second ∨ (a.second = b.second ∧ a.nano < b.nano) := Iff.rfl

instance (a b : Instant) : Decidable (a ≤ b) := decidable_of_iff _ le_def.symm

instance (a b : Instant) : Decidable (a < b) := decidable_of_iff _ lt_def.symm

instance : Max Instant := ⟨fun a b => if a ≤ b then b else a⟩

theorem max_def (a b : Instant) : max a b = if a ≤ b then b else a := rfl

theorem le_refl (a : Instant) : a ≤ a := Or.inr ⟨rfl, Nat.le_refl _⟩

theorem le_total (a b : Instant) : a ≤ b ∨ b ≤ a := by
  simp only [le_def]
  omega

theorem le_max_left (a b : Instant) : a ≤ max a b := by
  rw [max_def]
  split
  · assumption
  · exact le_refl a

theorem le_max_right (a b : Instant) : b ≤ max a b := by
  rw [max_def]
  split
  · exact le_refl b
  · next h => exact (le_total a b).resolve_left h

theorem le_trans {a b c : Instant} (hab : a ≤ b) (hbc : b ≤ c) : a ≤ c := by
  simp only [le_def] at *
  omega

theorem lt_of_le_of_lt {a b c : Instant} (hab : a ≤ b) (hbc : b < c) : a < c := by
  simp only [le_def, lt_def] at *
  omega

theorem lt_of_lt_of_le {a b c : Instant} (hab : a < b) (hbc : b ≤ c) : a < c := by
  simp only [le_def, lt_def] at *
  omega

theorem le_of_lt {a b : Instant} (h : a < b) : a ≤ b := by
  simp only [le_def, lt_def] at *
  omega

theorem not_le {a b : Instant} : ¬a ≤ b ↔ b < a := by
  simp only [le_def, lt_def]
  omega

def date (i : Instant) : Date := .ofDayNumber (i.second / 86400)

def secondOfDay (i : Instant) : Nat := (i.second % 86400).toNat

def isLeap (i : Instant) : Bool := nanosPerSecond ≤ i.nano

@[simp] theorem ofParts?_self (i : Instant) : ofParts? i.second i.nano = some i := by
  rw [ofParts?, dif_pos ⟨i.nano_lt, i.firstSecond_le, i.le_lastSecond⟩]

theorem ofParts?_eq_some_iff {second : Int} {nano : Nat} {i : Instant} :
    ofParts? second nano = some i ↔ i.second = second ∧ i.nano = nano := by
  constructor
  · intro h
    rw [ofParts?] at h
    split at h
    · cases h
      exact ⟨rfl, rfl⟩
    · cases h
  · rintro ⟨rfl, rfl⟩
    exact ofParts?_self i

end Instant

end EscrowLedger
