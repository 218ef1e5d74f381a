import EscrowLedger.Proofs.Instant.Timestamp

/-!
# How timestamps may be spelled

The texts that are accepted as timestamps, described piece by piece, and the instant that each of
them names. The reader takes every piece from the front of what is left. It takes as many digits as
it can, so a number must be followed by something else, which the next piece always is.

## Main definitions

* `Timestamp.Spells` — the texts of a timestamp.
* `Timestamp.Names` — the instant of a timestamp: universal time is local time less the offset.
* `Instant.IsSpelledBy` — the texts of an instant.

## Main statements

* `Timestamp.ofChars?_eq_some_iff`, `Timestamp.instant?_eq_some_iff` — what is accepted.
* `Instant.ofText?_eq_some_iff` — the instant of a text.
-/

namespace EscrowLedger

namespace Timestamp

open Text (isSpace skipSpaces takeDigits digitChar digitValue?)

-- ════════════════════════════════════════════════════════════════════════
-- The pieces of a timestamp
-- ════════════════════════════════════════════════════════════════════════

def Blanks (cs : List Char) : Prop := ∀ c ∈ cs, isSpace c = true

/-- Some digits, at least one. -/
structure Digits (cs : List Char) : Prop where
  ne_nil : cs ≠ []
  isDigit : ∀ c ∈ cs, c.isDigit = true

/-- A number, perhaps after white space. -/
inductive IsNumber (limit : Nat) : List Char → Nat → Prop
  | mk {bs ds : List Char} (blanks : Blanks bs) (digits : Digits ds)
      (length_le : ds.length ≤ limit) :
    IsNumber limit (bs ++ ds) (Nat.ofDigitChars 10 ds 0)

/-- A year: a number of up to four digits, or a sign and any count of digits. -/
inductive IsYear : List Char → Int → Prop
  | short {cs : List Char} {n : Nat} (number : IsNumber 4 cs n) : IsYear cs n
  | after {bs ds : List Char} (blanks : Blanks bs) (digits : Digits ds) :
    IsYear (bs ++ '+' :: ds) (Nat.ofDigitChars 10 ds 0)
  | before {bs ds : List Char} (blanks : Blanks bs) (digits : Digits ds) :
    IsYear (bs ++ '-' :: ds) (-Nat.ofDigitChars 10 ds 0)

inductive IsSeparator (c : Char) : List Char → Prop
  | mk {bs : List Char} (blanks : Blanks bs) : IsSeparator c (bs ++ [c])

/-- What may stand between date and time. -/
def IsMark (c : Char) : Prop := c = 'T' ∨ c = 't' ∨ c = ' '

/-- A fraction of a second in nanoseconds, which are rounded down. -/
inductive IsFraction : List Char → Nat → Prop
  | absent : IsFraction [] 0
  | present {ds : List Char} (digits : Digits ds) :
    IsFraction ('.' :: ds) (Nat.ofDigitChars 10 ds 0 * nanosPerSecond / Nat.pow 10 ds.length)

/-- The size of an offset in seconds: two digits for hours and two for minutes, with any mixture of
colons and white space between them. -/
inductive IsSize : List Char → Int → Prop
  | mk {h h' m m' : Fin 10} {gap : List Char} (gap_mem : ∀ c ∈ gap, c = ':' ∨ isSpace c = true)
      (minutes_lt : 10 * m.val + m'.val < 60) :
    IsSize (digitChar h :: digitChar h' :: (gap ++ [digitChar m, digitChar m']))
      (3600 * (10 * h.val + h'.val) + 60 * (10 * m.val + m'.val) : Nat)

/-- The letter of universal time, or a sign and a size. -/
inductive IsZone : List Char → Int → Prop
  | letter {c : Char} (h : c = 'Z' ∨ c = 'z') : IsZone [c] 0
  | ahead {cs : List Char} {n : Int} (size : IsSize cs n) : IsZone ('+' :: cs) n
  | behind {c : Char} {cs : List Char} {n : Int} (h : c = '-' ∨ c = '\u2212') (size : IsSize cs n) :
    IsZone (c :: cs) (-n)

/-- An offset: the letter or the name of universal time, or a sign and a size. -/
inductive IsOffset : List Char → Int → Prop
  | zone {cs : List Char} {n : Int} (h : IsZone cs n) : IsOffset cs n
  | name {u t c : Char} (hu : u = 'U' ∨ u = 'u') (ht : t = 'T' ∨ t = 't') (hc : c = 'C' ∨ c = 'c') :
    IsOffset [u, t, c] 0

/-- Whether a text spells a timestamp: its pieces in turn, with white space in most places. -/
inductive Spells : List Char → Timestamp → Prop
  | mk {y s m s' d h c i c' n f bs z bs' : List Char} {between : Char} {t : Timestamp}
      (year : IsYear y t.date.year) (sep : IsSeparator '-' s) (month : IsNumber 2 m t.date.month)
      (sep' : IsSeparator '-' s') (day : IsNumber 2 d t.date.day) (mark : IsMark between)
      (hour : IsNumber 2 h t.hour) (colon : IsSeparator ':' c) (minute : IsNumber 2 i t.minute)
      (colon' : IsSeparator ':' c') (second : IsNumber 2 n t.second)
      (fraction : IsFraction f t.nano) (blanks : Blanks bs) (offset : IsOffset z t.offset)
      (blanks' : Blanks bs') :
    Spells (y ++ (s ++ (m ++ (s' ++ (d ++ between :: (h ++ (c ++ (i ++ (c' ++ (n ++ (f ++ (bs
      ++ (z ++ bs'))))))))))))) t

-- ════════════════════════════════════════════════════════════════════════
-- White space and digits
-- ════════════════════════════════════════════════════════════════════════

/-- Whether a number can end in front of a text. -/
def NoDigitFirst (cs : List Char) : Prop := ∀ c rest, cs = c :: rest → c.isDigit = false

theorem noDigitFirst_cons {c : Char} {cs : List Char} (h : c.isDigit = false) :
    NoDigitFirst (c :: cs) := by
  rintro _ _ ⟨rfl, rfl⟩
  exact h

theorem exists_blanks (cs : List Char) : ∃ bs, Blanks bs ∧ cs = bs ++ skipSpaces cs := by
  refine ⟨cs.takeWhile isSpace, ?_, List.takeWhile_append_dropWhile.symm⟩
  exact List.all_eq_true.1 List.all_takeWhile

theorem Blanks.skipSpaces_append {bs : List Char} (h : Blanks bs) (cs : List Char) :
    skipSpaces (bs ++ cs) = skipSpaces cs :=
  List.dropWhile_append_of_pos h

theorem Blanks.noDigitFirst {bs cs : List Char} (h : Blanks bs) (hcs : NoDigitFirst cs) :
    NoDigitFirst (bs ++ cs) := by
  cases bs with
  | nil => exact hcs
  | cons b bs =>
    apply noDigitFirst_cons
    rw [← Bool.not_eq_true]
    intro hdigit
    have hspace := h b List.mem_cons_self
    rw [Text.not_isSpace_of_isDigit hdigit] at hspace
    cases hspace

theorem skipSpaces_eq_nil_iff {cs : List Char} : skipSpaces cs = [] ↔ Blanks cs := by
  constructor
  · intro h
    obtain ⟨bs, hbs, hcs⟩ := exists_blanks cs
    rwa [hcs, h, List.append_nil]
  · intro h
    have := h.skipSpaces_append []
    rwa [List.append_nil] at this

theorem Digits.skipSpaces_append {ds : List Char} (h : Digits ds) (cs : List Char) :
    skipSpaces (ds ++ cs) = ds ++ cs := by
  obtain ⟨d, ds, rfl⟩ := List.exists_cons_of_ne_nil h.ne_nil
  exact Text.skipSpaces_cons (Text.not_isSpace_of_isDigit (h.isDigit d List.mem_cons_self))

theorem takeDigits_spec (limit : Nat) (cs : List Char) :
    cs = (takeDigits limit cs).1 ++ (takeDigits limit cs).2
      ∧ (∀ c ∈ (takeDigits limit cs).1, c.isDigit = true)
      ∧ (takeDigits limit cs).1.length ≤ limit
      ∧ ((takeDigits limit cs).1.length = limit ∨ NoDigitFirst (takeDigits limit cs).2) := by
  induction limit generalizing cs with
  | zero => simp [takeDigits]
  | succ limit ih =>
    cases cs with
    | nil => simp [takeDigits, NoDigitFirst]
    | cons c cs =>
      rw [takeDigits]
      split
      · next hc =>
        obtain ⟨happend, hdigits, hlength, hends⟩ := ih cs
        refine ⟨?_, ?_, ?_, ?_⟩
        · rw [List.cons_append, ← happend]
        · exact List.forall_mem_cons.2 ⟨hc, hdigits⟩
        · exact Nat.succ_le_succ hlength
        · exact hends.imp_left fun h => congrArg Nat.succ h
      · next hc =>
        refine ⟨rfl, by simp, by simp, .inr ?_⟩
        exact noDigitFirst_cons (Bool.eq_false_iff.2 hc)

theorem NoDigitFirst.dropWhile_eq {cs : List Char} (h : NoDigitFirst cs) :
    cs.dropWhile Char.isDigit = cs := by
  cases cs with
  | nil => rfl
  | cons c cs => rw [List.dropWhile_cons_of_neg (by simp [h c cs rfl])]

theorem NoDigitFirst.takeWhile_eq {cs : List Char} (h : NoDigitFirst cs) :
    cs.takeWhile Char.isDigit = [] := by
  cases cs with
  | nil => rfl
  | cons c cs => rw [List.takeWhile_cons_of_neg (by simp [h c cs rfl])]

theorem ofDigitChars_lt {ds : List Char} (h : ∀ c ∈ ds, c.isDigit = true) :
    Nat.ofDigitChars 10 ds 0 < Nat.pow 10 ds.length := by
  induction ds with
  | nil => decide
  | cons d ds ih =>
    obtain ⟨hd, hds⟩ := List.forall_mem_cons.1 h
    have hrest := ih hds
    have hdigit : d.toNat - '0'.toNat ≤ 9 := by
      simp only [Char.isDigit, Bool.and_eq_true, decide_eq_true_eq, UInt32.le_iff_toNat_le] at hd
      have hle : d.toNat ≤ 57 := hd.2
      have hzero : '0'.toNat = 48 := rfl
      omega
    have hmul := Nat.mul_le_mul_left (Nat.pow 10 ds.length) hdigit
    rw [Nat.pow_eq] at hrest hmul
    rw [Nat.ofDigitChars_cons, Nat.mul_zero, Nat.zero_add, Nat.ofDigitChars_eq_ofDigitChars_zero,
      List.length_cons, Nat.pow_eq, Nat.pow_succ]
    omega

/-- Of a fraction nine digits count. -/
theorem nanos_append {ds ds' : List Char} (hds' : ∀ c ∈ ds', c.isDigit = true)
    (hlength : ds.length ≤ 9) (h : ds.length = 9 ∨ ds' = []) :
    Nat.ofDigitChars 10 (ds ++ ds') 0 * nanosPerSecond / Nat.pow 10 (ds ++ ds').length
      = Nat.ofDigitChars 10 ds 0 * Nat.pow 10 (9 - ds.length) := by
  rcases h with h | rfl
  · have hpow : Nat.pow 10 (ds ++ ds').length = Nat.pow 10 ds'.length * nanosPerSecond := by
      rw [List.length_append, h, Nat.pow_eq, Nat.pow_add, Nat.mul_comm]
      rfl
    have hpos : 0 < Nat.pow 10 ds'.length := Nat.pow_pos (by decide)
    rw [hpow, Nat.mul_div_mul_right _ _ (by decide), Nat.ofDigitChars_append,
      Nat.ofDigitChars_eq_ofDigitChars_zero, ← Nat.pow_eq, Nat.mul_add_div hpos,
      Nat.div_eq_of_lt (ofDigitChars_lt hds'), Nat.add_zero, h]
    exact (Nat.mul_one _).symm
  · have hpow : nanosPerSecond = Nat.pow 10 (9 - ds.length) * Nat.pow 10 ds.length := by
      rw [Nat.pow_eq, Nat.pow_eq, ← Nat.pow_add, Nat.sub_add_cancel hlength]
      rfl
    rw [List.append_nil, hpow, ← Nat.mul_assoc]
    exact Nat.mul_div_cancel _ (Nat.pow_pos (by decide))

-- ════════════════════════════════════════════════════════════════════════
-- Readers of pieces
-- ════════════════════════════════════════════════════════════════════════

/-- Whether a reader takes the pieces of one kind off a text, if what is left may follow them. -/
structure Takes {α : Type} (read : List Char → Option (α × List Char)) (Is : List Char → α → Prop)
    (MayFollow : List Char → Prop) : Prop where
  sound : ∀ {cs a rest}, read cs = some (a, rest) → ∃ p, cs = p ++ rest ∧ Is p a
  complete : ∀ {p a rest}, Is p a → MayFollow rest → read (p ++ rest) = some (a, rest)

theorem takes_number (limit : Nat) : Takes (number? limit) (IsNumber limit) NoDigitFirst where
  sound {cs n rest} h := by
    obtain ⟨bs, hbs, hcs⟩ := exists_blanks cs
    obtain ⟨happend, hdigits, hlength, -⟩ := takeDigits_spec limit (skipSpaces cs)
    rw [number?] at h
    split at h
    · cases h
    · next ds rest' hne htake =>
      cases h
      rw [htake] at happend hdigits hlength
      refine ⟨bs ++ ds, ?_, .mk hbs ⟨?_, hdigits⟩ hlength⟩
      · rw [List.append_assoc, ← happend, ← hcs]
      · rintro rfl
        exact hne rfl
  complete {p n rest} h hrest := by
    obtain @⟨bs, ds, hbs, hds, hlength⟩ := h
    have htake := Text.takeDigits_append hds.isDigit hlength (.inr hrest)
    rw [number?, List.append_assoc, hbs.skipSpaces_append, hds.skipSpaces_append, htake]
    obtain ⟨d, ds, rfl⟩ := List.exists_cons_of_ne_nil hds.ne_nil
    rfl

theorem takes_unboundedNumber : Takes unboundedNumber?
    (fun ds n => Digits ds ∧ n = Nat.ofDigitChars 10 ds 0) NoDigitFirst where
  sound {cs n rest} h := by
    obtain ⟨happend, hdigits, -, -⟩ := takeDigits_spec cs.length cs
    rw [unboundedNumber?] at h
    split at h
    · cases h
    · next ds rest' hne htake =>
      cases h
      rw [htake] at happend hdigits
      refine ⟨ds, happend, ⟨?_, hdigits⟩, rfl⟩
      rintro rfl
      exact hne rfl
  complete {ds n rest} h hrest := by
    obtain ⟨hds, rfl⟩ := h
    have hlength : ds.length ≤ (ds ++ rest).length := by simp
    have htake := Text.takeDigits_append hds.isDigit hlength (.inr hrest)
    rw [unboundedNumber?, htake]
    obtain ⟨d, ds, rfl⟩ := List.exists_cons_of_ne_nil hds.ne_nil
    rfl

theorem takes_year : Takes year? IsYear NoDigitFirst where
  sound {cs y rest} h := by
    obtain ⟨bs, hbs, hcs⟩ := exists_blanks cs
    rw [year?] at h
    split at h
    · next cs' hskip =>
      obtain ⟨⟨n, rest'⟩, hn, heq⟩ := Option.map_eq_some_iff.1 h
      cases heq
      obtain ⟨ds, rfl, hds, rfl⟩ := takes_unboundedNumber.sound hn
      refine ⟨bs ++ '-' :: ds, ?_, .before hbs hds⟩
      rw [hcs, hskip, List.append_assoc, List.cons_append]
    · next cs' hskip =>
      obtain ⟨⟨n, rest'⟩, hn, heq⟩ := Option.map_eq_some_iff.1 h
      cases heq
      obtain ⟨ds, rfl, hds, rfl⟩ := takes_unboundedNumber.sound hn
      refine ⟨bs ++ '+' :: ds, ?_, .after hbs hds⟩
      rw [hcs, hskip, List.append_assoc, List.cons_append]
    · obtain ⟨⟨n, rest'⟩, hn, heq⟩ := Option.map_eq_some_iff.1 h
      cases heq
      obtain ⟨p, hp, hnumber⟩ := (takes_number 4).sound hn
      exact ⟨p, hp, .short hnumber⟩
  complete {p y rest} h hrest := by
    cases h with
    | short hnumber =>
      have hread := (takes_number 4).complete hnumber hrest
      obtain @⟨bs, ds, hbs, hds, -⟩ := hnumber
      obtain ⟨d, ds, rfl⟩ := List.exists_cons_of_ne_nil hds.ne_nil
      have hd := hds.isDigit d List.mem_cons_self
      rw [year?, hread, List.append_assoc, hbs.skipSpaces_append, hds.skipSpaces_append,
        List.cons_append]
      -- A sign is no digit, so the number has none.
      split
      · next heq =>
        cases heq
        cases hd
      · next heq =>
        cases heq
        cases hd
      · rfl
    | @after bs ds hbs hds =>
      rw [year?, List.append_assoc, hbs.skipSpaces_append, List.cons_append,
        Text.skipSpaces_cons (by decide)]
      simp only [takes_unboundedNumber.complete ⟨hds, rfl⟩ hrest, Option.map_some]
    | @before bs ds hbs hds =>
      rw [year?, List.append_assoc, hbs.skipSpaces_append, List.cons_append,
        Text.skipSpaces_cons (by decide)]
      simp only [takes_unboundedNumber.complete ⟨hds, rfl⟩ hrest, Option.map_some]

theorem separator?_eq_some_iff {c : Char} (hc : isSpace c = false) {cs rest : List Char} :
    separator? c cs = some rest ↔ ∃ p, cs = p ++ rest ∧ IsSeparator c p := by
  constructor
  · intro h
    obtain ⟨bs, hbs, hcs⟩ := exists_blanks cs
    rw [separator?] at h
    split at h
    · next d rest' hskip =>
      split at h
      · next hd =>
        cases h
        refine ⟨bs ++ [c], ?_, .mk hbs⟩
        rw [hcs, hskip, hd, List.append_assoc, List.singleton_append]
      · cases h
    · cases h
  · rintro ⟨_, rfl, @⟨bs, hbs⟩⟩
    rw [separator?, List.append_assoc, hbs.skipSpaces_append, List.singleton_append,
      Text.skipSpaces_cons hc]
    exact if_pos rfl

theorem timeMark?_eq_some_iff {cs rest : List Char} :
    timeMark? cs = some rest ↔ ∃ c, cs = c :: rest ∧ IsMark c := by
  cases cs with
  | nil => simp [timeMark?]
  | cons c cs =>
    rw [timeMark?]
    split
    · next hc =>
      constructor
      · rintro ⟨⟩
        exact ⟨c, rfl, hc⟩
      · rintro ⟨_, ⟨rfl, rfl⟩, -⟩
        rfl
    · next hc =>
      constructor
      · rintro ⟨⟩
      · rintro ⟨_, ⟨rfl, rfl⟩, hmark⟩
        exact absurd hmark hc

theorem takes_fraction : Takes fraction? IsFraction
    fun cs => NoDigitFirst cs ∧ ∀ rest, cs ≠ '.' :: rest where
  sound {cs n rest} h := by
    rw [fraction?.eq_def] at h
    split at h
    · next cs =>
      obtain ⟨happend, hdigits, hlength, hends⟩ := takeDigits_spec 9 cs
      split at h
      · cases h
      · next ds rest' hne htake =>
        rw [htake] at happend hdigits hlength hends
        cases h
        have hdrop : ∀ c ∈ rest'.takeWhile Char.isDigit, c.isDigit = true :=
          List.all_eq_true.1 List.all_takeWhile
        refine ⟨'.' :: (ds ++ rest'.takeWhile Char.isDigit), ?_, ?_⟩
        · rw [List.cons_append, List.append_assoc, List.takeWhile_append_dropWhile, ← happend]
        · rw [← nanos_append hdrop hlength]
          · refine .present ⟨?_, fun c hc => ?_⟩
            · intro hnil
              exact hne (List.append_eq_nil_iff.1 hnil).1
            · exact (List.mem_append.1 hc).elim (hdigits c) (hdrop c)
          · exact hends.imp_right fun hrest => hrest.takeWhile_eq
    · cases h
      exact ⟨[], rfl, .absent⟩
  complete {p n rest} h hrest := by
    obtain ⟨hdigit, hpoint⟩ := hrest
    cases h with
    | absent =>
      rw [List.nil_append, fraction?.eq_def]
      split
      · exact absurd rfl (hpoint _)
      · rfl
    | @present ds hds =>
      obtain ⟨taken, dropped, rfl, hlength, hends⟩ : ∃ taken dropped, ds = taken ++ dropped ∧
          taken.length ≤ 9 ∧ (taken.length = 9 ∨ dropped = []) := by
        refine ⟨ds.take 9, ds.drop 9, (List.take_append_drop 9 ds).symm,
          List.length_take_le 9 ds, ?_⟩
        rw [List.length_take, List.drop_eq_nil_iff]
        omega
      have htaken : ∀ c ∈ taken, c.isDigit = true :=
        fun c hc => hds.isDigit c (List.mem_append_left _ hc)
      have hdropped : ∀ c ∈ dropped, c.isDigit = true :=
        fun c hc => hds.isDigit c (List.mem_append_right _ hc)
      have htake : takeDigits 9 (taken ++ (dropped ++ rest)) = (taken, dropped ++ rest) := by
        apply Text.takeDigits_append htaken hlength
        refine hends.imp_right fun hnil => ?_
        rwa [hnil]
      have hne : taken ≠ [] := by
        rintro rfl
        rcases hends with h | rfl
        · cases h
        · exact hds.ne_nil rfl
      obtain ⟨d, ds, rfl⟩ := List.exists_cons_of_ne_nil hne
      rw [nanos_append hdropped hlength hends, List.cons_append, fraction?, List.append_assoc,
        htake]
      simp only [List.dropWhile_append_of_pos hdropped, hdigit.dropWhile_eq]

theorem digitValue?_eq_some_iff {c : Char} {d : Fin 10} :
    digitValue? c = some d ↔ c = digitChar d := by
  constructor
  · intro h
    rw [digitValue?] at h
    split at h
    · next hc =>
      have hchar : ∀ d : Fin 10, (digitChar d).toNat = d.val + 48 := by decide
      apply Char.toNat_inj.1
      rw [hchar d, ← Option.some.inj h]
      change c.toNat = c.toNat - 48 + 48
      omega
    · cases h
  · rintro rfl
    exact Text.digitValue?_digitChar d

theorem twoDigits?_eq_some_iff {cs rest : List Char} {n : Nat} :
    twoDigits? cs = some (n, rest) ↔ ∃ d d' : Fin 10,
      cs = digitChar d :: digitChar d' :: rest ∧ n = 10 * d.val + d'.val := by
  constructor
  · intro h
    rw [twoDigits?.eq_def] at h
    split at h
    · next a b rest' =>
      split at h
      · next d d' hd hd' =>
        cases h
        rw [digitValue?_eq_some_iff.1 hd, digitValue?_eq_some_iff.1 hd']
        exact ⟨d, d', rfl, rfl⟩
      · cases h
    · cases h
  · rintro ⟨d, d', rfl, rfl⟩
    simp only [twoDigits?, Text.digitValue?_digitChar]

theorem takes_offsetSize : Takes offsetSize? IsSize fun _ => True where
  sound {cs n rest} h := by
    simp only [offsetSize?, Option.bind_eq_bind, Option.bind_eq_some_iff, Prod.exists] at h
    obtain ⟨hours, cs', hhours, minutes, rest', hminutes, h⟩ := h
    split at h
    · next hlt =>
      cases h
      obtain ⟨h, h', rfl, rfl⟩ := twoDigits?_eq_some_iff.1 hhours
      obtain ⟨m, m', hdrop, rfl⟩ := twoDigits?_eq_some_iff.1 hminutes
      have hgap : ∀ c ∈ cs'.takeWhile fun c => c = ':' || isSpace c,
          c = ':' ∨ isSpace c = true := by
        intro c hc
        simpa using List.all_eq_true.1 List.all_takeWhile c hc
      refine ⟨_, ?_, .mk hgap hlt⟩
      rw [List.cons_append, List.cons_append, List.append_assoc, List.cons_append, List.cons_append,
        List.nil_append, ← hdrop, List.takeWhile_append_dropWhile]
    · cases h
  complete {p n rest} h _ := by
    obtain @⟨h, h', m, m', gap, hgap, hlt⟩ := h
    have hdrop : (gap ++ digitChar m :: digitChar m' :: rest).dropWhile
        (fun c => c = ':' || isSpace c) = digitChar m :: digitChar m' :: rest := by
      have hdigit : ∀ d : Fin 10, (digitChar d = ':' || isSpace (digitChar d)) = false := by decide
      rw [List.dropWhile_append_of_pos (by simpa using hgap),
        List.dropWhile_cons_of_neg (by simpa using hdigit m)]
    simp only [offsetSize?, List.cons_append, List.append_assoc, List.nil_append,
      Option.bind_eq_bind, twoDigits?_eq_some_iff.2 ⟨h, h', rfl, rfl⟩, Option.bind_some, hdrop,
      twoDigits?_eq_some_iff.2 ⟨m, m', rfl, rfl⟩, if_pos hlt]

theorem takes_zone : Takes offset?.numeric IsZone fun _ => True where
  sound {cs n rest} h := by
    rw [offset?.numeric.eq_def] at h
    split at h
    · next c cs =>
      split at h
      · next hc =>
        cases h
        exact ⟨[c], rfl, .letter hc⟩
      · split at h
        · next hc =>
          obtain ⟨p, rfl, hp⟩ := takes_offsetSize.sound h
          exact ⟨c :: p, rfl, hc ▸ .ahead hp⟩
        · split at h
          · next hc =>
            obtain ⟨⟨k, rest'⟩, hk, heq⟩ := Option.map_eq_some_iff.1 h
            cases heq
            obtain ⟨p, rfl, hp⟩ := takes_offsetSize.sound hk
            exact ⟨c :: p, rfl, .behind hc hp⟩
          · cases h
    · cases h
  complete {p n rest} h _ := by
    cases h with
    | letter hc => exact if_pos hc
    | ahead hsize => exact takes_offsetSize.complete hsize trivial
    | @behind c cs k hc hsize =>
      have hread : offsetSize? (cs ++ rest) = some (k, rest) :=
        takes_offsetSize.complete hsize trivial
      rw [List.cons_append, offset?.numeric, if_neg, if_neg, if_pos hc, hread]
      · rfl
      · rcases hc with rfl | rfl <;> decide
      · rcases hc with rfl | rfl <;> decide

theorem toUpper_cases (c : Char) : c.toUpper = c ∨ c.toUpper.toNat + 32 = c.toNat := by
  delta Char.toUpper
  split
  · next h =>
    right
    obtain ⟨hfrom, hto⟩ := h
    rw [UInt32.le_iff_toNat_le] at hfrom hto
    have hshift : ('A'.val - 'a'.val).toNat = 4294967264 := rfl
    have ha : 'a'.val.toNat = 97 := rfl
    have hz : 'z'.val.toNat = 122 := rfl
    change (c.val + ('A'.val - 'a'.val)).toNat + 32 = c.val.toNat
    rw [UInt32.toNat_add]
    omega
  · exact .inl rfl

/-- A letter is compared without regard to its case. -/
theorem toUpper_eq_iff {c upper lower : Char} (h : upper.toNat + 32 = lower.toNat)
    (hupper : upper.toUpper = upper) (hlower : lower.toUpper = upper) :
    c.toUpper = upper ↔ c = upper ∨ c = lower := by
  constructor
  · intro hc
    rcases toUpper_cases c with hself | hshift
    · exact .inl (hself.symm.trans hc)
    · rw [hc, h] at hshift
      exact .inr (Char.toNat_inj.1 hshift).symm
  · rintro (rfl | rfl)
    · exact hupper
    · exact hlower

theorem isName_iff {u t c : Char} : (u.toUpper = 'U' ∧ t.toUpper = 'T' ∧ c.toUpper = 'C') ↔
    (u = 'U' ∨ u = 'u') ∧ (t = 'T' ∨ t = 't') ∧ (c = 'C' ∨ c = 'c') := by
  have hu : u.toUpper = 'U' ↔ u = 'U' ∨ u = 'u' := toUpper_eq_iff rfl rfl rfl
  have ht : t.toUpper = 'T' ↔ t = 'T' ∨ t = 't' := toUpper_eq_iff rfl rfl rfl
  have hc : c.toUpper = 'C' ↔ c = 'C' ∨ c = 'c' := toUpper_eq_iff rfl rfl rfl
  rw [hu, ht, hc]

/-- The first character of an offset ends what stands before it, which is a number or a fraction. -/
theorem IsOffset.exists_cons {cs : List Char} {n : Int} (h : IsOffset cs n) :
    ∃ c rest, cs = c :: rest ∧ isSpace c = false ∧ c.isDigit = false ∧ c ≠ '.' := by
  cases h with
  | zone hzone =>
    cases hzone with
    | @letter c hc =>
      refine ⟨c, [], rfl, ?_⟩
      rcases hc with rfl | rfl <;> decide
    | ahead => exact ⟨_, _, rfl, by decide⟩
    | @behind c cs n hc =>
      refine ⟨c, cs, rfl, ?_⟩
      rcases hc with rfl | rfl <;> decide
  | @name u t c hu =>
    refine ⟨u, [t, c], rfl, ?_⟩
    rcases hu with rfl | rfl <;> decide

theorem IsZone.ne_name {u : Char} {cs : List Char} {n : Int} (h : IsZone (u :: cs) n) :
    ¬(u = 'U' ∨ u = 'u') := by
  cases h with
  | letter hc => rcases hc with rfl | rfl <;> decide
  | ahead => decide
  | behind hc => rcases hc with rfl | rfl <;> decide

theorem offset?_eq_some_iff {cs rest : List Char} {n : Int} :
    offset? cs = some (n, rest) ↔
      ∃ bs p, cs = bs ++ (p ++ rest) ∧ Blanks bs ∧ IsOffset p n := by
  constructor
  · intro h
    obtain ⟨bs, hbs, hcs⟩ := exists_blanks cs
    have hzone : ∀ {cs'}, skipSpaces cs = cs' → offset?.numeric cs' = some (n, rest) →
        ∃ bs p, cs = bs ++ (p ++ rest) ∧ Blanks bs ∧ IsOffset p n := by
      rintro _ rfl hread
      obtain ⟨p, hp, hoffset⟩ := takes_zone.sound hread
      exact ⟨bs, p, hp ▸ hcs, hbs, .zone hoffset⟩
    rw [offset?] at h
    split at h
    · next u t c rest' hskip =>
      split at h
      · next hname =>
        obtain ⟨hu, ht, hc⟩ := isName_iff.1 hname
        cases h
        rw [hskip] at hcs
        exact ⟨bs, [u, t, c], hcs, hbs, .name hu ht hc⟩
      · exact hzone hskip h
    · exact hzone rfl h
  · rintro ⟨bs, p, rfl, hbs, hoffset⟩
    obtain ⟨d, ds, rfl, hspace, -, -⟩ := hoffset.exists_cons
    rw [offset?, hbs.skipSpaces_append, List.cons_append, Text.skipSpaces_cons hspace]
    generalize hp : d :: ds = p at hoffset
    cases hoffset with
    | name hu ht hc =>
      cases hp
      exact if_pos (isName_iff.2 ⟨hu, ht, hc⟩)
    | zone hzone =>
      subst hp
      have hread : offset?.numeric (d :: ds ++ rest) = some (n, rest) :=
        takes_zone.complete hzone trivial
      split
      · next heq =>
        obtain ⟨rfl, hrest⟩ := List.cons.inj heq
        rw [if_neg fun hname => hzone.ne_name (isName_iff.1 hname).1, ← hrest]
        exact hread
      · exact hread

-- ════════════════════════════════════════════════════════════════════════
-- Timestamps
-- ════════════════════════════════════════════════════════════════════════

theorem IsSeparator.noDigitFirst {c : Char} (hc : c.isDigit = false) {s : List Char}
    (h : IsSeparator c s) (cs : List Char) : NoDigitFirst (s ++ cs) := by
  obtain @⟨bs, hbs⟩ := h
  rw [List.append_assoc]
  exact hbs.noDigitFirst (noDigitFirst_cons hc)

theorem IsMark.not_isDigit {c : Char} (h : IsMark c) : c.isDigit = false := by
  rcases h with rfl | rfl | rfl <;> rfl

theorem IsFraction.noDigitFirst {f cs : List Char} {n : Nat} (h : IsFraction f n)
    (hcs : NoDigitFirst cs) : NoDigitFirst (f ++ cs) := by
  cases h with
  | absent => exact hcs
  | present => exact noDigitFirst_cons rfl

/-- The texts of timestamps are those that are accepted. -/
theorem ofChars?_eq_some_iff {cs : List Char} {t : Timestamp} :
    ofChars? cs = some t ↔ Spells cs t := by
  have hdash : isSpace '-' = false := by decide
  have hcolon : isSpace ':' = false := by decide
  constructor
  · intro h
    simp only [ofChars?, Option.bind_eq_bind, Option.bind_eq_some_iff, Prod.exists] at h
    obtain ⟨year, cs₁, hyear, cs₂, hsep, month, cs₃, hmonth, cs₄, hsep', day, cs₅, hday, cs₆, hmark,
      hour, cs₇, hhour, cs₈, hcolon₁, minute, cs₉, hminute, cs₁₀, hcolon₂, second, cs₁₁, hsecond,
      nano, cs₁₂, hfraction, offset, cs₁₃, hoffset, h⟩ := h
    split at h
    · next hend =>
      cases h
      obtain ⟨y, rfl, hy⟩ := takes_year.sound hyear
      obtain ⟨s, rfl, hs⟩ := (separator?_eq_some_iff hdash).1 hsep
      obtain ⟨m, rfl, hm⟩ := (takes_number 2).sound hmonth
      obtain ⟨s', rfl, hs'⟩ := (separator?_eq_some_iff hdash).1 hsep'
      obtain ⟨d, rfl, hd⟩ := (takes_number 2).sound hday
      obtain ⟨between, rfl, hbetween⟩ := timeMark?_eq_some_iff.1 hmark
      obtain ⟨h, rfl, hh⟩ := (takes_number 2).sound hhour
      obtain ⟨c, rfl, hc⟩ := (separator?_eq_some_iff hcolon).1 hcolon₁
      obtain ⟨i, rfl, hi⟩ := (takes_number 2).sound hminute
      obtain ⟨c', rfl, hc'⟩ := (separator?_eq_some_iff hcolon).1 hcolon₂
      obtain ⟨n, rfl, hn⟩ := (takes_number 2).sound hsecond
      obtain ⟨f, rfl, hf⟩ := takes_fraction.sound hfraction
      obtain ⟨bs, z, rfl, hbs, hz⟩ := offset?_eq_some_iff.1 hoffset
      have hbs' := skipSpaces_eq_nil_iff.1 (List.isEmpty_iff.1 hend)
      exact .mk hy hs hm hs' hd hbetween hh hc hi hc' hn hf hbs hz hbs'
    · cases h
  · intro h
    obtain @⟨y, s, m, s', d, h, c, i, c', n, f, bs, z, bs', between, t, hy, hs, hm, hs', hd,
      hbetween, hh, hc, hi, hc', hn, hf, hbs, hz, hbs'⟩ := h
    obtain ⟨e, es, hcons, hspace, hdigit, hpoint⟩ := hz.exists_cons
    have hzone : NoDigitFirst (bs ++ (z ++ bs')) := by
      rw [hcons]
      exact hbs.noDigitFirst (noDigitFirst_cons hdigit)
    have hnopoint : ∀ rest, bs ++ (z ++ bs') ≠ '.' :: rest := by
      intro rest heq
      cases bs with
      | nil =>
        rw [hcons] at heq
        exact hpoint (List.cons.inj heq).1
      | cons b bs =>
        have hb := hbs b List.mem_cons_self
        rw [(List.cons.inj heq).1] at hb
        cases hb
    have hoffset : offset? (bs ++ (z ++ bs')) = some (t.offset, bs') :=
      offset?_eq_some_iff.2 ⟨bs, z, rfl, hbs, hz⟩
    simp only [ofChars?, Option.bind_eq_bind, Option.bind_some,
      takes_year.complete hy (hs.noDigitFirst rfl _),
      (separator?_eq_some_iff hdash).2 ⟨s, rfl, hs⟩,
      (takes_number 2).complete hm (hs'.noDigitFirst rfl _),
      (separator?_eq_some_iff hdash).2 ⟨s', rfl, hs'⟩,
      (takes_number 2).complete hd (noDigitFirst_cons hbetween.not_isDigit),
      timeMark?_eq_some_iff.2 ⟨between, rfl, hbetween⟩,
      (takes_number 2).complete hh (hc.noDigitFirst rfl _),
      (separator?_eq_some_iff hcolon).2 ⟨c, rfl, hc⟩,
      (takes_number 2).complete hi (hc'.noDigitFirst rfl _),
      (separator?_eq_some_iff hcolon).2 ⟨c', rfl, hc'⟩,
      (takes_number 2).complete hn (hf.noDigitFirst hzone),
      takes_fraction.complete hf ⟨hzone, hnopoint⟩, hoffset,
      skipSpaces_eq_nil_iff.2 hbs', List.isEmpty_nil, if_true]

theorem IsOffset.emod {cs : List Char} {n : Int} (h : IsOffset cs n) : n % 60 = 0 := by
  have hsize : ∀ {cs' : List Char} {k : Int}, IsSize cs' k → k % 60 = 0 := by
    rintro _ _ ⟨-, -⟩
    omega
  cases h with
  | zone h =>
    cases h with
    | letter => rfl
    | ahead size => exact hsize size
    | behind _ size =>
      have hmod := hsize size
      omega
  | name => rfl

theorem Spells.offset_emod {cs : List Char} {t : Timestamp} (h : Spells cs t) :
    t.offset % 60 = 0 := by
  cases h with
  | mk _ _ _ _ _ _ _ _ _ _ _ _ _ offset _ => exact offset.emod

theorem IsFraction.lt {cs : List Char} {n : Nat} (h : IsFraction cs n) : n < nanosPerSecond := by
  cases h with
  | absent => decide
  | @present ds digits =>
    have hdigits : Nat.ofDigitChars 10 ds 0 < Nat.pow 10 ds.length := ofDigitChars_lt digits.isDigit
    apply Nat.div_lt_of_lt_mul
    exact Nat.mul_lt_mul_of_pos_right hdigits (by decide)

theorem Spells.nano_lt {cs : List Char} {t : Timestamp} (h : Spells cs t) :
    t.nano < nanosPerSecond := by
  cases h with
  | mk _ _ _ _ _ _ _ _ _ _ _ fraction _ _ _ => exact fraction.lt

/-- Whether a timestamp names an instant. There must be such a date and such a time, and universal
time is local time less the offset. A leap second belongs to the second before it. -/
structure Names (t : Timestamp) (i : Instant) : Prop where
  isValid : t.date.isValid = true
  year_mem : firstYear ≤ t.date.year ∧ t.date.year ≤ lastYear
  hour_lt : t.hour < 24
  minute_lt : t.minute < 60
  second_le : t.second ≤ 60
  offset_lt : t.offset.natAbs < 86400
  second_eq : i.second = 86400 * t.date.dayNumber
    + (3600 * t.hour + 60 * t.minute + min t.second 59 : Nat) - t.offset
  nano_eq : i.nano = t.nano + if t.second = 60 then nanosPerSecond else 0

theorem instant?_eq_some_iff {t : Timestamp} {i : Instant} : t.instant? = some i ↔ t.Names i := by
  have hclock : t.second ≤ 60 → (if t.second = 60 then 59 else t.second) = min t.second 59 := by
    intro h
    split <;> omega
  rw [instant?]
  constructor
  · intro h
    split at h
    · next hparts =>
      simp only [Bool.and_eq_true, decide_eq_true_eq] at hparts
      obtain ⟨⟨⟨⟨⟨⟨hvalid, hfirst⟩, hlast⟩, hhour⟩, hminute⟩, hsecond⟩, hoffset⟩ := hparts
      obtain ⟨hinstant, hnano⟩ := Instant.ofParts?_eq_some_iff.1 h
      rw [hclock hsecond] at hinstant
      exact ⟨hvalid, ⟨hfirst, hlast⟩, hhour, hminute, hsecond, hoffset, hinstant, hnano⟩
    · cases h
  · intro h
    rw [if_pos]
    · apply Instant.ofParts?_eq_some_iff.2
      refine ⟨?_, h.nano_eq⟩
      rw [hclock h.second_le]
      exact h.second_eq
    · simp only [Bool.and_eq_true, decide_eq_true_eq]
      exact ⟨⟨⟨⟨⟨⟨h.isValid, h.year_mem.1⟩, h.year_mem.2⟩, h.hour_lt⟩, h.minute_lt⟩, h.second_le⟩,
        h.offset_lt⟩

end Timestamp

namespace Instant

/-- Whether a text spells an instant, whatever its offset is. -/
def IsSpelledBy (i : Instant) (s : String) : Prop :=
  ∃ t : Timestamp, Timestamp.Spells s.toList t ∧ t.Names i

theorem ofText?_eq_some_iff {s : String} {i : Instant} : ofText? s = some i ↔ i.IsSpelledBy s := by
  rw [ofText?, Option.bind_eq_bind, Option.bind_eq_some_iff]
  constructor
  · rintro ⟨t, ht, hi⟩
    exact ⟨t, Timestamp.ofChars?_eq_some_iff.1 ht, Timestamp.instant?_eq_some_iff.1 hi⟩
  · rintro ⟨t, ht, hi⟩
    exact ⟨t, Timestamp.ofChars?_eq_some_iff.2 ht, Timestamp.instant?_eq_some_iff.2 hi⟩

/-- A text can name a leap second only at the end of a minute of local time, and universal time is
whole minutes away from it. -/
theorem IsSpelledBy.hasTimestamp {i : Instant} {s : String} (h : i.IsSpelledBy s) :
    i.HasTimestamp := by
  obtain ⟨t, hspells, hnames⟩ := h
  intro hleap
  have hnano := hnames.nano_eq
  have hsecond := hnames.second_eq
  have hoffset := hspells.offset_emod
  have hfraction := hspells.nano_lt
  rw [isLeap, decide_eq_true_eq] at hleap
  by_cases hsixty : t.second = 60
  · omega
  · rw [if_neg hsixty] at hnano
    omega

end Instant

end EscrowLedger
