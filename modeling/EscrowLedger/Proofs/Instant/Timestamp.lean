import EscrowLedger.Instant.Timestamp

/-!
# Timestamps are read back

Every instant, from the first second of the first year to the last second of the last one, with any
nanosecond and also within a leap second, is read back from its timestamp exactly, if only there is
one. A leap second is written as the second after the one that it extends, with the digits of the
fraction only. At the end of a minute this is the second 60, which names nothing else; but inside of
a minute the next second is written in the same way, and it is the next second that is read.

The reader skips white space and takes numbers of any length where it can, so each number is followed
here by a character that ends it.

## Main definitions

* `Instant.HasTimestamp` — the instants that are written in a way of their own.
* `Instant.written` — the instant that is read from what is written for one.

## Main statements

* `Date.month_le_of_isValid`, `Date.day_le_of_isValid` — dates fit into two digits for month and day.
* `Instant.year_mem` — the years of instants are those that a timestamp may name.
* `Timestamp.ofChars?_chars` — the parts of a timestamp are read back.
* `Instant.ofText?_toText` — so is the instant, as it is written.
* `Instant.written_eq_self_iff` — which instants are read back as they were.
-/

namespace EscrowLedger

-- ════════════════════════════════════════════════════════════════════════
-- Bounds on dates
-- ════════════════════════════════════════════════════════════════════════

namespace Date

theorem length_monthLengths (leap : Bool) : (monthLengths leap).length = 12 := rfl

theorem le_of_mem_monthLengths {leap : Bool} {length : Nat} (h : length ∈ monthLengths leap) :
    length ≤ 31 := by
  cases leap
  · revert length
    decide
  · revert length
    decide

theorem month_le_of_isValid {d : Date} (h : d.isValid = true) : d.month ≤ 12 := by
  have hlen := length_monthLengths (isLeapYear d.year)
  simp only [isValid, Bool.and_eq_true] at h
  obtain ⟨-, hday⟩ := h
  split at hday
  · next length hget =>
    have := (List.getElem?_eq_some_iff.1 hget).1
    omega
  · cases hday

theorem day_le_of_isValid {d : Date} (h : d.isValid = true) : d.day ≤ 31 := by
  simp only [isValid, Bool.and_eq_true] at h
  obtain ⟨-, hday⟩ := h
  split at hday
  · next length hget =>
    have hlength := le_of_mem_monthLengths (List.mem_of_getElem? hget)
    have hle : d.day ≤ length := of_decide_eq_true hday
    omega
  · cases hday

theorem yearStart_le {a b : Int} (h : a ≤ b) : yearStart a ≤ yearStart b := by
  simp only [yearStart]
  omega

end Date

namespace Instant

theorem year_mem (i : Instant) : firstYear ≤ i.date.year ∧ i.date.year ≤ lastYear := by
  obtain ⟨hfrom, hto⟩ := Date.yearOf_spec (i.second / 86400 + Date.epoch)
  have hfirst := i.firstSecond_le
  have hlast := i.le_lastSecond
  simp only [firstSecond, lastSecond] at hfirst hlast
  change firstYear ≤ Date.yearOf _ ∧ Date.yearOf _ ≤ lastYear
  -- A year outside would put its start, or the start of the next one, on the wrong side of the day.
  constructor
  · refine Int.not_lt.1 fun hlt => ?_
    have hstart := Date.yearStart_le (Int.add_one_le_of_lt hlt)
    simp only [firstYear, Date.epoch, Date.yearStart] at *
    omega
  · refine Int.not_lt.1 fun hlt => ?_
    have hstart := Date.yearStart_le (Int.add_one_le_of_lt hlt)
    simp only [lastYear, Date.epoch, Date.yearStart] at *
    omega

end Instant

-- ════════════════════════════════════════════════════════════════════════
-- The parts of a timestamp
-- ════════════════════════════════════════════════════════════════════════

namespace Text

theorem exists_padded_eq_cons (width n : Nat) :
    ∃ c cs, padded width n = c :: cs ∧ c.isDigit = true := by
  obtain ⟨c, cs, h⟩ := List.exists_cons_of_ne_nil (padded_ne_nil width n)
  exact ⟨c, cs, h, isDigit_of_mem_padded (h ▸ List.mem_cons_self)⟩

theorem skipSpaces_padded (width n : Nat) (rest : List Char) :
    skipSpaces (padded width n ++ rest) = padded width n ++ rest := by
  obtain ⟨c, cs, h, hc⟩ := exists_padded_eq_cons width n
  rw [h, List.cons_append, skipSpaces_cons (not_isSpace_of_isDigit hc)]

end Text

namespace Timestamp

open Text (padded)

theorem number?_padded {limit n : Nat} (hpos : 0 < limit) (h : n < Nat.pow 10 limit)
    (rest : List Char) : number? limit (padded limit n ++ rest) = some (n, rest) := by
  have hlength := Text.length_padded hpos h
  have htake : Text.takeDigits limit (padded limit n ++ rest) = (padded limit n, rest) :=
    Text.takeDigits_append (fun _ => Text.isDigit_of_mem_padded) (Nat.le_of_eq hlength)
      (Or.inl hlength)
  obtain ⟨c, cs, hcons, -⟩ := Text.exists_padded_eq_cons limit n
  rw [number?, Text.skipSpaces_padded, htake]
  simp only [hcons]
  rw [← hcons, Text.ofDigitChars_padded]

theorem unboundedNumber?_padded (width n : Nat) {c : Char} (rest : List Char)
    (hc : c.isDigit = false) :
    unboundedNumber? (padded width n ++ c :: rest) = some (n, c :: rest) := by
  have htake : Text.takeDigits (padded width n ++ c :: rest).length (padded width n ++ c :: rest)
      = (padded width n, c :: rest) := by
    refine Text.takeDigits_append (fun _ => Text.isDigit_of_mem_padded) (by simp) (Or.inr ?_)
    rintro _ _ ⟨rfl, rfl⟩
    exact hc
  obtain ⟨d, ds, hcons, -⟩ := Text.exists_padded_eq_cons width n
  rw [unboundedNumber?, htake]
  simp only [hcons]
  rw [← hcons, Text.ofDigitChars_padded]

theorem year?_yearChars (y : Int) (rest : List Char) :
    year? (Instant.yearChars y ++ '-' :: rest) = some (y, '-' :: rest) := by
  have hminus : Text.isSpace '-' = false := by decide
  have hplus : Text.isSpace '+' = false := by decide
  rw [Instant.yearChars]
  split
  · next h =>
    have hsmall : y.toNat < Nat.pow 10 4 := by
      change y.toNat < 10000
      omega
    have hnumber := number?_padded (by decide) hsmall ('-' :: rest)
    obtain ⟨c, cs, hcons, hc⟩ := Text.exists_padded_eq_cons 4 y.toNat
    rw [year?, hnumber, Text.skipSpaces_padded, hcons, List.cons_append]
    -- The reader looks for a sign first, which no digit is.
    split
    · next heq =>
      cases heq
      cases hc
    · next heq =>
      cases heq
      cases hc
    · rw [Option.map_some, Int.toNat_of_nonneg h.1]
  · next h =>
    have hnumber := unboundedNumber?_padded 4 y.natAbs rest (c := '-') rfl
    by_cases hneg : y < 0
    · rw [if_pos hneg, year?, List.cons_append, Text.skipSpaces_cons hminus]
      simp only [hnumber, Option.map_some]
      rw [show -(y.natAbs : Int) = y by omega]
    · rw [if_neg hneg, year?, List.cons_append, Text.skipSpaces_cons hplus]
      simp only [hnumber, Option.map_some]
      rw [show (y.natAbs : Int) = y by omega]

theorem separator?_cons {c : Char} (rest : List Char) (hc : Text.isSpace c = false) :
    separator? c (c :: rest) = some rest := by
  rw [separator?, Text.skipSpaces_cons hc]
  exact if_pos rfl

/-- A fraction of as many digits as it needs counts its nanoseconds. -/
theorem fraction?_padded {width n : Nat} (hpos : 0 < width) (hwidth : width ≤ 9)
    (h : n < Nat.pow 10 width) {c : Char} (rest : List Char) (hc : c.isDigit = false) :
    fraction? ('.' :: (padded width n ++ c :: rest))
      = some (n * Nat.pow 10 (9 - width), c :: rest) := by
  have hlength := Text.length_padded hpos h
  have htake : Text.takeDigits 9 (padded width n ++ c :: rest) = (padded width n, c :: rest) := by
    refine Text.takeDigits_append (fun _ => Text.isDigit_of_mem_padded) (by omega) (Or.inr ?_)
    rintro _ _ ⟨rfl, rfl⟩
    exact hc
  obtain ⟨d, ds, hcons, -⟩ := Text.exists_padded_eq_cons width n
  rw [fraction?, htake]
  simp only [hcons]
  rw [← hcons, Text.ofDigitChars_padded, hlength, List.dropWhile_cons_of_neg (by simp [hc])]

theorem fraction?_fractionChars {nano : Nat} (h : nano < nanosPerSecond) :
    fraction? (Instant.fractionChars nano ++ ['Z']) = some (nano, ['Z']) := by
  rw [nanosPerSecond] at h
  rw [Instant.fractionChars]
  split
  · next h₀ => rw [h₀]; rfl
  · split
    · next _ h₃ =>
      rw [List.cons_append, fraction?_padded (by decide) (by decide) (by change _ < 1000; omega) _
        rfl]
      rw [show nano / 1000000 * Nat.pow 10 (9 - 3) = nano by change _ * 1000000 = _; omega]
    · split
      · next _ _ h₆ =>
        rw [List.cons_append, fraction?_padded (by decide) (by decide)
          (by change _ < 1000000; omega) _ rfl]
        rw [show nano / 1000 * Nat.pow 10 (9 - 6) = nano by change _ * 1000 = _; omega]
      · rw [List.cons_append, fraction?_padded (by decide) (by decide)
          (by change _ < 1000000000; omega) _ rfl]
        rw [show nano * Nat.pow 10 (9 - 9) = nano from Nat.mul_one nano]

/-- The timestamp that is written for an instant. -/
def ofInstant (i : Instant) : Timestamp :=
  ⟨i.date, i.secondOfDay / 3600, i.secondOfDay / 60 % 60,
    i.secondOfDay % 60 + if i.isLeap then 1 else 0, i.nano % nanosPerSecond, 0⟩

theorem secondOfDay_lt (i : Instant) : i.secondOfDay < 86400 := by
  rw [Instant.secondOfDay]
  omega

theorem ofChars?_chars (i : Instant) : ofChars? (i.chars 'T' ['Z']) = some (ofInstant i) := by
  have hvalid : i.date.isValid = true := Date.isValid_ofDayNumber _
  have hmonth := Date.month_le_of_isValid hvalid
  have hday := Date.day_le_of_isValid hvalid
  have htime := secondOfDay_lt i
  have hleap : (if i.isLeap then 1 else 0) ≤ 1 := by
    split <;> omega
  have htwo : ∀ {n}, n < 100 → ∀ rest, number? 2 (padded 2 n ++ rest) = some (n, rest) :=
    fun h rest => number?_padded (by decide) h rest
  have hdash : Text.isSpace '-' = false := by decide
  have hcolon : Text.isSpace ':' = false := by decide
  have hmark : ∀ rest, timeMark? ('T' :: rest) = some rest := fun _ => rfl
  have hzone : offset? ['Z'] = some (0, []) := by decide
  have hnano : i.nano % nanosPerSecond < nanosPerSecond := Nat.mod_lt _ (by decide)
  simp only [ofChars?, Instant.chars, bind, Option.bind]
  simp only [year?_yearChars, separator?_cons _ hdash, separator?_cons _ hcolon, hmark,
    htwo (show i.date.month < 100 by omega), htwo (show i.date.day < 100 by omega),
    htwo (show i.secondOfDay / 3600 < 100 by omega),
    htwo (show i.secondOfDay / 60 % 60 < 100 by omega),
    htwo (show i.secondOfDay % 60 + (if i.isLeap then 1 else 0) < 100 by omega),
    fraction?_fractionChars hnano, hzone]
  rfl

end Timestamp

-- ════════════════════════════════════════════════════════════════════════
-- Instants
-- ════════════════════════════════════════════════════════════════════════

namespace Instant

/-- Whether a timestamp can name an instant. A leap second has no number but 60, so only the last
second of a minute can be extended by one. -/
def HasTimestamp (i : Instant) : Prop := i.isLeap = true → i.second % 60 = 59

instance : DecidablePred HasTimestamp := fun i =>
  inferInstanceAs (Decidable (i.isLeap = true → i.second % 60 = 59))

theorem not_hasTimestamp_iff {i : Instant} :
    ¬i.HasTimestamp ↔ i.isLeap = true ∧ i.second % 60 ≠ 59 :=
  Decidable.not_imp_iff_and_not

theorem second_lt_of_not_hasTimestamp {i : Instant} (h : ¬i.HasTimestamp) :
    i.second < lastSecond := by
  have hlast := i.le_lastSecond
  have hminute := (not_hasTimestamp_iff.1 h).2
  simp only [lastSecond] at *
  omega

/-- The instant that the timestamp of an instant names. A leap second inside of a minute is written
like the second after it, and so becomes that second. -/
def written (i : Instant) : Instant :=
  if h : i.HasTimestamp then i
  else
    { second := i.second + 1
      nano := i.nano - nanosPerSecond
      nano_lt := Nat.lt_of_le_of_lt (Nat.sub_le _ _) i.nano_lt
      firstSecond_le := Int.le_trans i.firstSecond_le (Int.le_of_lt (Int.lt_succ i.second))
      le_lastSecond := second_lt_of_not_hasTimestamp h }

theorem HasTimestamp.written_eq {i : Instant} (h : i.HasTimestamp) : i.written = i := dif_pos h

theorem second_written {i : Instant} (h : ¬i.HasTimestamp) : i.written.second = i.second + 1 := by
  rw [written, dif_neg h]

theorem nano_written {i : Instant} (h : ¬i.HasTimestamp) :
    i.written.nano = i.nano - nanosPerSecond := by
  rw [written, dif_neg h]

theorem written_eq_self_iff {i : Instant} : i.written = i ↔ i.HasTimestamp := by
  refine ⟨fun heq => Decidable.byContradiction fun h => ?_, HasTimestamp.written_eq⟩
  have hsecond := second_written h
  rw [heq] at hsecond
  omega

theorem hasTimestamp_written (i : Instant) : i.written.HasTimestamp := by
  by_cases h : i.HasTimestamp
  · rwa [h.written_eq]
  · intro hleap
    have hnano := i.nano_lt
    rw [isLeap, decide_eq_true_eq, nano_written h] at hleap
    omega

theorem second_eq_sixty_iff {i : Instant} :
    (Timestamp.ofInstant i).second = 60 ↔ i.isLeap = true ∧ i.second % 60 = 59 := by
  simp only [Timestamp.ofInstant, secondOfDay]
  split
  · next hleap =>
    simp only [hleap, true_and]
    omega
  · next hleap =>
    simp only [hleap, Bool.false_eq_true, false_and, iff_false]
    omega

/-- The date and the clock time of a timestamp lead to the second of the instant that it names. -/
theorem inDay_ofInstant (i : Instant) :
    86400 * (Timestamp.ofInstant i).date.dayNumber
      + (3600 * (Timestamp.ofInstant i).hour + 60 * (Timestamp.ofInstant i).minute
        + (if (Timestamp.ofInstant i).second = 60 then 59 else (Timestamp.ofInstant i).second)
        : Nat) = i.written.second := by
  have hday : i.date.dayNumber = i.second / 86400 := Date.dayNumber_ofDayNumber _
  have hofDay : (i.secondOfDay : Int) = i.second % 86400 := by
    rw [secondOfDay]
    omega
  by_cases h : i.HasTimestamp
  · rw [h.written_eq]
    cases hleap : i.isLeap with
    | true =>
      have hminute := h hleap
      rw [if_pos (second_eq_sixty_iff.2 ⟨hleap, hminute⟩)]
      simp only [Timestamp.ofInstant, hday]
      omega
    | false =>
      rw [if_neg fun hsixty => Bool.false_ne_true (hleap.symm.trans (second_eq_sixty_iff.1 hsixty).1)]
      simp only [Timestamp.ofInstant, hday, hleap, if_neg Bool.false_ne_true]
      omega
  · obtain ⟨hleap, hminute⟩ := not_hasTimestamp_iff.1 h
    rw [second_written h, if_neg fun hsixty => hminute (second_eq_sixty_iff.1 hsixty).2]
    simp only [Timestamp.ofInstant, hday, hleap, if_true]
    omega

theorem inSecond_ofInstant (i : Instant) :
    (Timestamp.ofInstant i).nano
      + (if (Timestamp.ofInstant i).second = 60 then nanosPerSecond else 0) = i.written.nano := by
  have hnano := i.nano_lt
  have hsixty := second_eq_sixty_iff (i := i)
  change i.nano % nanosPerSecond + _ = _
  simp only [isLeap, decide_eq_true_eq] at hsixty
  by_cases h : i.HasTimestamp
  · rw [h.written_eq]
    simp only [HasTimestamp, isLeap, decide_eq_true_eq] at h
    simp only [nanosPerSecond] at *
    split <;> omega
  · rw [nano_written h]
    simp only [not_hasTimestamp_iff, isLeap, decide_eq_true_eq] at h
    simp only [nanosPerSecond] at *
    split <;> omega

theorem instant?_ofInstant (i : Instant) : (Timestamp.ofInstant i).instant? = some i.written := by
  obtain ⟨hfirst, hlast⟩ := year_mem i
  have hvalid : i.date.isValid = true := Date.isValid_ofDayNumber _
  have htime := Timestamp.secondOfDay_lt i
  have hclock : (Timestamp.ofInstant i).second ≤ 60 := by
    simp only [Timestamp.ofInstant]
    split <;> omega
  rw [Timestamp.instant?, if_pos]
  · simp only [inDay_ofInstant, inSecond_ofInstant]
    rw [show (Timestamp.ofInstant i).offset = 0 from rfl, Int.sub_zero]
    exact ofParts?_self i.written
  · simp only [Bool.and_eq_true, decide_eq_true_eq]
    refine ⟨⟨⟨⟨⟨⟨hvalid, hfirst⟩, hlast⟩, ?_⟩, ?_⟩, hclock⟩, ?_⟩
    · change i.secondOfDay / 3600 < 24
      omega
    · change i.secondOfDay / 60 % 60 < 60
      omega
    · change Int.natAbs 0 < 86400
      decide

/-- What is read from the timestamp of an instant. -/
@[simp] theorem ofText?_toText (i : Instant) : ofText? i.toText = some i.written := by
  rw [ofText?, toText, String.toList_ofList, Timestamp.ofChars?_chars]
  exact instant?_ofInstant i

end Instant

end EscrowLedger
