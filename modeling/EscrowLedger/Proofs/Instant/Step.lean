import EscrowLedger.Instant.Step

/-!
# Where a step ends

A step moves an instant by whole seconds and by the nanoseconds that are left over, and it treats a
leap second in three ways. Here the end of a step is told at once: count the nanoseconds on from the
start of the second, and carry what is more than a second. Only who leaves a leap second forwards
carries one second less. So a step fails exactly if this second is out of range, and it respects the
order of instants, strictly.

## Main definitions

* `Instant.landing` — the second and the nanosecond in which a step ends, in range or not.
* `Instant.FollowsBy` — how both ends of a step are ordered.

## Main statements

* `Instant.step_eq_some_iff`, `Instant.step_eq_none_iff` — the end of a step, and the steps without
  one.
* `Instant.followsBy_of_step` — the sign of a step orders its ends.
-/

namespace EscrowLedger.Instant

theorem cast_nanosPerSecond : (nanosPerSecond : Int) = 1000000000 := rfl

/-- A number of nanoseconds is split toward zero, so the rest has its sign. -/
theorem split_spec (delta : Int) :
    nanosPerSecond * delta.tdiv nanosPerSecond + delta.tmod nanosPerSecond = delta ∧
    -(nanosPerSecond : Int) < delta.tmod nanosPerSecond ∧
    delta.tmod nanosPerSecond < nanosPerSecond ∧
    (0 ≤ delta → 0 ≤ delta.tmod nanosPerSecond) ∧ (delta ≤ 0 → delta.tmod nanosPerSecond ≤ 0) := by
  have hpos : (0 : Int) < nanosPerSecond := by decide
  refine ⟨Int.mul_tdiv_add_tmod _ _, Int.lt_tmod_of_pos _ hpos, Int.tmod_lt_of_pos _ hpos,
    Int.tmod_nonneg _, fun h => ?_⟩
  have hneg : 0 ≤ (-delta).tmod nanosPerSecond := Int.tmod_nonneg _ (by omega)
  rw [Int.neg_tmod] at hneg
  omega

/-- The second in which a step ends, in range or not, and the nanoseconds there. Time goes on evenly
but for leap seconds: inside of one the second stays what it was, and who leaves one forwards has
passed no second by it. -/
def landing (i : Instant) (delta : Int) : Int × Nat :=
  let nano := i.nano + delta
  if i.isLeap = true ∧ nanosPerSecond ≤ nano then
    if nano < 2 * nanosPerSecond then (i.second, nano.toNat)
    else (i.second + nano / nanosPerSecond - 1, (nano % nanosPerSecond).toNat)
  else (i.second + nano / nanosPerSecond, (nano % nanosPerSecond).toNat)

theorem settle_eq {second nano : Int} (h : -nanosPerSecond ≤ nano) (h' : nano < 2 * nanosPerSecond) :
    settle second nano
      = ofParts? (second + nano / nanosPerSecond) (nano % nanosPerSecond).toNat := by
  rw [cast_nanosPerSecond] at h h'
  rw [settle, cast_nanosPerSecond]
  split
  · congr 1 <;> omega
  · split
    · congr 1 <;> omega
    · congr 1 <;> omega

theorem isLeap_iff {i : Instant} : i.isLeap = true ↔ (nanosPerSecond : Int) ≤ i.nano := by
  rw [isLeap, decide_eq_true_iff, Int.ofNat_le]

section Landing

variable {i : Instant} {delta : Int}

theorem landing_of_even (h : ¬(i.isLeap = true ∧ nanosPerSecond ≤ i.nano + delta)) :
    i.landing delta = (i.second + (i.nano + delta) / nanosPerSecond,
      ((i.nano + delta) % nanosPerSecond).toNat) :=
  if_neg h

theorem landing_of_within (hleap : i.isLeap = true) (h : nanosPerSecond ≤ i.nano + delta)
    (h' : i.nano + delta < 2 * nanosPerSecond) :
    i.landing delta = (i.second, (i.nano + delta).toNat) := by
  rw [landing, if_pos ⟨hleap, h⟩, if_pos h']

theorem landing_of_behind (hleap : i.isLeap = true) (h : 2 * nanosPerSecond ≤ i.nano + delta) :
    i.landing delta = (i.second + (i.nano + delta) / nanosPerSecond - 1,
      ((i.nano + delta) % nanosPerSecond).toNat) := by
  have hlong : nanosPerSecond ≤ i.nano + delta := by
    rw [cast_nanosPerSecond] at *
    omega
  rw [landing, if_pos ⟨hleap, hlong⟩, if_neg (Int.not_lt.2 h)]

end Landing

theorem step_eq (i : Instant) (delta : Int) :
    i.step delta = ofParts? (i.landing delta).1 (i.landing delta).2 := by
  obtain ⟨hsum, hlow, hhigh, hnonneg, hnonpos⟩ := split_spec delta
  have hnano : (i.nano : Int) < 2 * nanosPerSecond := Int.ofNat_lt.2 i.nano_lt
  have hleast : (0 : Int) ≤ i.nano := Int.natCast_nonneg _
  rw [step]
  generalize delta.tdiv nanosPerSecond = seconds at *
  generalize delta.tmod nanosPerSecond = rest at *
  by_cases hleap : i.isLeap = true
  · have hlong := isLeap_iff.1 hleap
    rw [if_pos hleap]
    by_cases hforward : 0 < seconds ∨ 0 < rest ∧ 2 * nanosPerSecond ≤ i.nano + rest
    · have hbehind : 2 * nanosPerSecond ≤ i.nano + delta := by
        rw [cast_nanosPerSecond] at *
        omega
      rw [if_pos hforward, landing_of_behind hleap hbehind, settle_eq]
      all_goals rw [cast_nanosPerSecond] at *
      · congr 1 <;> omega
      all_goals omega
    · rw [if_neg hforward]
      by_cases hback : seconds < 0
      · have hbefore : ¬(i.isLeap = true ∧ nanosPerSecond ≤ i.nano + delta) := by
          rw [cast_nanosPerSecond] at *
          omega
        rw [if_pos hback, landing_of_even hbefore, settle_eq]
        all_goals rw [cast_nanosPerSecond] at *
        · congr 1 <;> omega
        all_goals omega
      · rw [if_neg hback]
        by_cases hstays : nanosPerSecond ≤ i.nano + delta
        · rw [landing_of_within hleap hstays]
          all_goals rw [cast_nanosPerSecond] at *
          · congr 1
            omega
          · omega
        · rw [landing_of_even (fun h => hstays h.2)]
          rw [cast_nanosPerSecond] at *
          congr 1 <;> omega
  · have hshort := mt isLeap_iff.2 hleap
    rw [if_neg hleap, landing_of_even (fun h => hleap h.1), settle_eq]
    all_goals rw [cast_nanosPerSecond] at *
    · congr 1 <;> omega
    all_goals omega

-- ════════════════════════════════════════════════════════════════════════
-- Steps that stay in range
-- ════════════════════════════════════════════════════════════════════════

/-- A step never ends where no instant could be but for the range. -/
theorem landing_nano_lt (i : Instant) (delta : Int) :
    (i.landing delta).2 < 2 * nanosPerSecond := by
  have hrest : ((i.nano + delta) % nanosPerSecond).toNat < nanosPerSecond := by
    rw [cast_nanosPerSecond, nanosPerSecond]
    omega
  rw [landing]
  split
  · split
    · next h =>
      rw [cast_nanosPerSecond] at h
      rw [nanosPerSecond]
      omega
    · exact Nat.lt_of_lt_of_le hrest (by decide)
  · exact Nat.lt_of_lt_of_le hrest (by decide)

variable {i i' : Instant} {delta : Int}

theorem step_eq_some_iff : i.step delta = some i' ↔ (i'.second, i'.nano) = i.landing delta := by
  rw [step_eq, ofParts?_eq_some_iff, Prod.ext_iff]

/-- A step fails exactly if it would end before the first second or after the last one. -/
theorem step_eq_none_iff : i.step delta = none ↔
    (i.landing delta).1 < firstSecond ∨ lastSecond < (i.landing delta).1 := by
  have hnano := i.landing_nano_lt delta
  rw [step_eq, ofParts?]
  split
  · next h =>
    have hrange := h.2
    simp only [reduceCtorEq, false_iff]
    omega
  · next h =>
    have hrange : ¬(firstSecond ≤ (i.landing delta).1 ∧ (i.landing delta).1 ≤ lastSecond) :=
      fun hrange => h ⟨hnano, hrange⟩
    simp only [true_iff]
    omega

/-- How the ends of a step are ordered: by the sign of the step. -/
structure FollowsBy (i : Instant) (delta : Int) (i' : Instant) : Prop where
  later : 0 < delta → i < i'
  earlier : delta < 0 → i' < i
  same : delta = 0 → i' = i

theorem followsBy_of_step (h : i.step delta = some i') : i.FollowsBy delta i' := by
  have hland := step_eq_some_iff.1 h
  have hwithin : (i.nano : Int) < 2 * nanosPerSecond := Int.ofNat_lt.2 i.nano_lt
  -- Both ends in seconds and nanoseconds; inside a leap second the second stays what it was.
  have hends : (0 < delta → i.second < i'.second ∨ i.second = i'.second ∧ i.nano < i'.nano) ∧
      (delta < 0 → i'.second < i.second ∨ i'.second = i.second ∧ i'.nano < i.nano) ∧
      (delta = 0 → i'.second = i.second ∧ i'.nano = i.nano) := by
    rw [landing] at hland
    split at hland
    · next hleap =>
      rw [isLeap_iff] at hleap
      split at hland
      all_goals obtain ⟨hsecond, hnano⟩ := Prod.mk.inj hland
      all_goals rw [cast_nanosPerSecond] at *
      all_goals refine ⟨fun hdelta => ?_, fun hdelta => ?_, fun hdelta => ?_⟩ <;> omega
    · next heven =>
      rw [isLeap_iff] at heven
      obtain ⟨hsecond, hnano⟩ := Prod.mk.inj hland
      rw [cast_nanosPerSecond] at *
      refine ⟨fun hdelta => ?_, fun hdelta => ?_, fun hdelta => ?_⟩ <;> omega
  obtain ⟨hlater, hearlier, hsame⟩ := hends
  refine ⟨hlater, hearlier, fun hdelta => ?_⟩
  obtain ⟨hsecond, hnano⟩ := hsame hdelta
  have hsome : ofParts? i'.second i'.nano = some i :=
    ofParts?_eq_some_iff.2 ⟨hsecond.symm, hnano.symm⟩
  exact Option.some.inj ((ofParts?_self i').symm.trans hsome)

end EscrowLedger.Instant
