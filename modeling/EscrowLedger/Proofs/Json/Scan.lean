import EscrowLedger.Json.Printer
import EscrowLedger.Json.Token

/-!
# Scanning written values

Both written forms of a value consist of the same tokens. A literal, a string or a bracket is one
token wherever it stands. A number is one token only if something follows that cannot belong to it,
so every statement about values speaks of the text that follows and asks it to be a boundary.

## Main definitions

* `Json.toTokens` — the tokens of a value.
* `Json.IsBoundary` — what may follow a number.

## Main statements

* `Json.scan_quoted`, `Json.scan_number` — strings and numbers are scanned as one token.
* `Json.scan_compactChars`, `Json.scan_prettyChars` — both written forms are scanned as the tokens
  of the value.
-/

namespace EscrowLedger.Json

mutual

/-- The tokens of a value. -/
def toTokens : Json → List Token
  | .null => [.null]
  | .bool b => [.bool b]
  | .number n => [.number n]
  | .string s => [.string (some s)]
  | .array [] => [.openBracket, .closeBracket]
  | .array (v :: rest) => .openBracket :: (toTokens v ++ (itemTokens rest ++ [.closeBracket]))
  | .object [] => [.openBrace, .closeBrace]
  | .object ((name, v) :: rest) =>
    .openBrace :: .string (some name) :: .colon
      :: (toTokens v ++ (memberTokens rest ++ [.closeBrace]))

def itemTokens : List Json → List Token
  | [] => []
  | v :: rest => .comma :: (toTokens v ++ itemTokens rest)

def memberTokens : List (String × Json) → List Token
  | [] => []
  | (name, v) :: rest =>
    .comma :: .string (some name) :: .colon :: (toTokens v ++ memberTokens rest)

end

/-- Whether a number ends in front of a character: white space, a comma or a closing bracket. -/
def endsNumber (c : Char) : Bool := isBlankChar c || c = ',' || c = ']' || c = '\x7d'

/-- A text in front of which a number ends: it is empty, or a separator stands first. -/
def IsBoundary (rest : List Char) : Prop := ∀ c ∈ rest.head?, endsNumber c = true

@[simp] theorem isBoundary_nil : IsBoundary [] := by
  simp [IsBoundary]

@[simp] theorem isBoundary_cons {c : Char} {cs : List Char} :
    IsBoundary (c :: cs) ↔ endsNumber c = true := by
  simp [IsBoundary]

-- ════════════════════════════════════════════════════════════════════════
-- Strings
-- ════════════════════════════════════════════════════════════════════════

namespace Scanner

theorem scan_string_cons {s t : StringState} {c : Char} (cs : List Char)
    (hc : c ≠ '"' ∨ s.place ≠ .plain) (h : s.step? c = some t) :
    scan (.string s) (c :: cs) = scan (.string t) cs := by
  have hq : ¬(c = '"' ∧ s.place = .plain) := by
    rintro ⟨rfl, hp⟩
    exact hc.elim (fun h => h rfl) (fun h => h hp)
  simp [scan, step, if_neg hq, h]

theorem scan_string_plain {c : Char} (acc cs : List Char) (hq : c ≠ '"') (hb : c ≠ '\\')
    (hc : 0x20 ≤ c.toNat) :
    scan (.string ⟨some acc, none, .plain⟩) (c :: cs)
      = scan (.string ⟨some (c :: acc), none, .plain⟩) cs := by
  apply scan_string_cons cs (Or.inl hq)
  have hlow : ¬c.toNat < 0x20 := by omega
  simp [StringState.step?, StringState.push, hb, hlow]

/-- A backslash and the letter of an escape are the character that the letter stands for. -/
theorem scan_string_letter {c d : Char} (acc cs : List Char) (h : unescape? d = some c)
    (hu : d ≠ 'u') :
    scan (.string ⟨some acc, none, .plain⟩) ('\\' :: d :: cs)
      = scan (.string ⟨some (c :: acc), none, .plain⟩) cs := by
  rw [scan_string_cons (t := ⟨some acc, none, .escaped⟩) _ (Or.inl (by decide)) rfl]
  apply scan_string_cons cs (Or.inr (by simp))
  simp [StringState.step?, StringState.push, h, hu]

/-- A `\u` escape of a character below the blank is that character. -/
theorem scan_string_unit {c : Char} (acc cs : List Char) (h : c.toNat < 0x20) :
    scan (.string ⟨some acc, none, .plain⟩)
        ('\\' :: 'u' :: '0' :: '0' :: Nat.digitChar (c.toNat / 16) :: Nat.digitChar (c.toNat % 16)
          :: cs)
      = scan (.string ⟨some (c :: acc), none, .plain⟩) cs := by
  have hhigh : Text.hexValue? (Nat.digitChar (c.toNat / 16)) = some ⟨c.toNat / 16, by omega⟩ :=
    Text.hexValue?_hexChar ⟨c.toNat / 16, by omega⟩
  have hlow : Text.hexValue? (Nat.digitChar (c.toNat % 16)) = some ⟨c.toNat % 16, by omega⟩ :=
    Text.hexValue?_hexChar ⟨c.toNat % 16, by omega⟩
  have hsum : 16 * (c.toNat / 16) + c.toNat % 16 = c.toNat := by omega
  rw [scan_string_cons (t := ⟨some acc, none, .escaped⟩) _ (Or.inl (by decide)) rfl,
    scan_string_cons (t := ⟨some acc, none, .unit 0 0⟩) _ (Or.inr (by simp)) rfl,
    scan_string_cons (t := ⟨some acc, none, .unit 1 0⟩) _ (Or.inr (by simp)) rfl,
    scan_string_cons (t := ⟨some acc, none, .unit 2 0⟩) _ (Or.inr (by simp)) rfl,
    scan_string_cons (t := ⟨some acc, none, .unit 3 (c.toNat / 16)⟩) _ (Or.inr (by simp))
      (by simp [StringState.step?, hhigh])]
  apply scan_string_cons cs (Or.inr (by simp))
  have hnot : ¬(0xD800 ≤ c.toNat ∧ c.toNat < 0xDC00) := by omega
  have hnot' : ¬(0xDC00 ≤ c.toNat ∧ c.toNat < 0xE000) := by omega
  simp [StringState.step?, StringState.pushUnit, hlow, hsum, hnot, hnot']

/-- What stands for one character of a string is scanned as that character. -/
theorem scan_escapeChar (c : Char) (acc cs : List Char) :
    scan (.string ⟨some acc, none, .plain⟩) (escapeChar c ++ cs)
      = scan (.string ⟨some (c :: acc), none, .plain⟩) cs := by
  unfold escapeChar
  split
  · next h => exact scan_string_letter acc cs (by rw [h]; rfl) (by decide)
  · next hq =>
    split
    · next h => exact scan_string_letter acc cs (by rw [h]; rfl) (by decide)
    · next hb =>
      split
      · next h => exact scan_string_letter acc cs (by rw [h]; rfl) (by decide)
      split
      · next h => exact scan_string_letter acc cs (by rw [h]; rfl) (by decide)
      split
      · next h => exact scan_string_letter acc cs (by rw [h]; rfl) (by decide)
      split
      · next h => exact scan_string_letter acc cs (by rw [h]; rfl) (by decide)
      split
      · next h => exact scan_string_letter acc cs (by rw [h]; rfl) (by decide)
      split
      · next h => exact scan_string_unit acc cs h
      · next h => exact scan_string_plain acc cs hq hb (by omega)

/-- The rest of a string up to its closing quote is scanned as its content. -/
theorem scan_escaped (cs acc rest : List Char) :
    scan (.string ⟨some acc, none, .plain⟩) (cs.flatMap escapeChar ++ '"' :: rest)
      = .string (some (String.ofList (acc.reverse ++ cs))) :: scan .between rest := by
  induction cs generalizing acc with
  | nil => simp [scan, step, StringState.token]
  | cons c cs ih =>
    rw [List.flatMap_cons, List.append_assoc, scan_escapeChar, ih]
    simp

end Scanner

open Scanner

theorem scan_quoted (s : String) (rest : List Char) :
    scan .between (quoted s ++ rest) = .string (some s) :: scan .between rest := by
  have h := scan_escaped s.toList [] rest
  rw [List.reverse_nil, List.nil_append, String.ofList_toList] at h
  rw [← h, quoted, List.cons_append, List.append_assoc]
  rfl

-- ════════════════════════════════════════════════════════════════════════
-- Numbers
-- ════════════════════════════════════════════════════════════════════════

/-- The digits of a number as values: they add up to it, and only zero starts with zero. -/
theorem exists_digits (n : Nat) :
    ∃ (d : Fin 10) (ds : List (Fin 10)), Nat.toDigits 10 n = (d :: ds).map Text.digitChar ∧
      ds.foldl (fun value e => 10 * value + e.val) d.val = n ∧ (n = 0 → ds = []) ∧
      (0 < n → 0 < d.val) := by
  induction n using Nat.strongRecOn with
  | ind n ih =>
    by_cases h : n < 10
    · exact ⟨⟨n, h⟩, [], by simp [Nat.toDigits_of_lt_base h, Text.digitChar], rfl, fun _ => rfl, id⟩
    · obtain ⟨d, ds, hds, hsum, -, hpos⟩ := ih (n / 10) (by omega)
      refine ⟨d, ds ++ [⟨n % 10, by omega⟩], ?_, ?_, by omega, fun _ => hpos (by omega)⟩
      · rw [Nat.toDigits_of_base_le (by decide) (by omega), hds]
        simp [Text.digitChar]
      · rw [List.foldl_append, hsum]
        simp only [List.foldl_cons, List.foldl_nil]
        omega

namespace NumberState

theorem foldlM_step?_whole (s : NumberState) (h : s.place = .whole) (ds : List (Fin 10)) :
    (ds.map Text.digitChar).foldlM step? s
      = some { s with whole := ds.foldl (fun value e => 10 * value + e.val) s.whole } := by
  induction ds generalizing s with
  | nil => rfl
  | cons d ds ih =>
    have hstep : s.step? (Text.digitChar d) = some { s with whole := 10 * s.whole + d.val } := by
      simp [step?, h]
    rw [List.map_cons, List.foldlM_cons, hstep]
    exact ih _ h

theorem foldlM_step?_exponent (s : NumberState) (h : s.place = .exponent) (ds : List (Fin 10)) :
    (ds.map Text.digitChar).foldlM step? s
      = some { s with exponent := ds.foldl (fun value e => 10 * value + e.val) s.exponent } := by
  induction ds generalizing s with
  | nil => rfl
  | cons d ds ih =>
    have hstep : s.step? (Text.digitChar d)
        = some { s with exponent := 10 * s.exponent + d.val } := by
      simp [step?, h]
    rw [List.map_cons, List.foldlM_cons, hstep]
    exact ih _ h

theorem foldlM_step?_fraction (s : NumberState) (h : s.place = .fraction) (ds : List (Fin 10)) :
    (ds.map Text.digitChar).foldlM step? s
      = some { s with fraction := ds.reverse ++ s.fraction } := by
  induction ds generalizing s with
  | nil => rfl
  | cons d ds ih =>
    have hstep : s.step? (Text.digitChar d) = some { s with fraction := d :: s.fraction } := by
      simp [step?, h]
    rw [List.map_cons, List.foldlM_cons, hstep]
    simpa using ih { s with fraction := d :: s.fraction } h

/-- The place after the digits of a whole part. -/
def wholePlace (n : Nat) : NumberPlace := if n = 0 then .zero else .whole

/-- The digits of a number, read behind their first one, become the whole part. -/
theorem exists_foldlM_step?_toDigits (negative : Bool) (n : Nat) :
    ∃ (d : Fin 10) (cs : List Char), Nat.toDigits 10 n = Text.digitChar d :: cs ∧
      cs.foldlM step? (start (if d.val = 0 then .zero else .whole) negative d.val)
        = some (start (wholePlace n) negative n) := by
  obtain ⟨d, ds, hds, hsum, hnil, hpos⟩ := exists_digits n
  refine ⟨d, ds.map Text.digitChar, hds, ?_⟩
  by_cases hn : n = 0
  · rw [hnil hn] at hsum ⊢
    have hd : d.val = 0 := hsum.trans hn
    simp [wholePlace, hn, hd]
  · have hd : d.val ≠ 0 := Nat.ne_of_gt (hpos (Nat.pos_of_ne_zero hn))
    rw [if_neg hd, foldlM_step?_whole _ rfl, start, hsum, wholePlace, if_neg hn, start]

theorem foldlM_step?_toDigits_exponent (s : NumberState)
    (h : s.place = .mark ∨ s.place = .markSign) (n : Nat) :
    (Nat.toDigits 10 n).foldlM step? s = some { s with place := .exponent, exponent := n } := by
  obtain ⟨d, ds, hds, hsum, -, -⟩ := exists_digits n
  have hstep : s.step? (Text.digitChar d)
      = some { s with place := .exponent, exponent := d.val } := by
    rcases h with h | h <;> simp [step?, h]
  rw [hds, List.map_cons, List.foldlM_cons, hstep]
  refine (foldlM_step?_exponent _ rfl ds).trans ?_
  rw [hsum]

/-- The state behind a whole part and a fraction. -/
def ofParts (negative : Bool) (whole : Nat) (fraction : List (Fin 10)) : NumberState :=
  ⟨if fraction = [] then wholePlace whole else .fraction, negative, whole, fraction.reverse, false,
    0⟩

/-- The state behind the last character of a number. -/
def ofNumber (n : Number) : NumberState :=
  match n.exponent with
  | none => ofParts n.negative n.whole n.fraction
  | some e =>
    { ofParts n.negative n.whole n.fraction with
      place := .exponent, exponentNegative := e < 0, exponent := e.natAbs }

theorem value?_ofNumber (n : Number) : (ofNumber n).value? = some n := by
  obtain ⟨negative, whole, fraction, exponent⟩ := n
  cases exponent with
  | none =>
    by_cases hf : fraction = [] <;> by_cases hw : whole = 0 <;>
      simp [value?, ofNumber, ofParts, wholePlace, hf, hw]
  | some e =>
    have he : (if e < 0 then -(e.natAbs : Int) else e.natAbs) = e := by omega
    simp only [value?, ofNumber, ofParts, decide_eq_true_eq, he, List.reverse_reverse]

/-- The characters of a fraction lead from the whole part to the fraction. -/
theorem foldlM_step?_point (negative : Bool) (whole : Nat) (fraction : List (Fin 10)) :
    (if fraction.isEmpty then [] else '.' :: fraction.map Text.digitChar).foldlM step?
        (start (wholePlace whole) negative whole)
      = some (ofParts negative whole fraction) := by
  cases fraction with
  | nil => rfl
  | cons d ds =>
    have hpoint : (start (wholePlace whole) negative whole).step? '.'
        = some (start .point negative whole) := by
      by_cases h : whole = 0 <;> simp [step?, start, wholePlace, h, Text.digitValue?]
    have hdigit : (start .point negative whole).step? (Text.digitChar d)
        = some { start .fraction negative whole with fraction := [d] } := by
      simp [step?, start]
    have hrest := foldlM_step?_fraction
      { start .fraction negative whole with fraction := [d] } rfl ds
    simp only [List.isEmpty_cons, Bool.false_eq_true, if_false, List.map_cons, List.foldlM_cons,
      hpoint, Option.bind_eq_bind, Option.bind_some, hdigit, hrest]
    simp [ofParts, start]

theorem foldlM_step?_mark (n : Number) :
    (match n.exponent with
      | none => []
      | some e => 'e' :: ((if e < 0 then ['-'] else []) ++ Nat.toDigits 10 e.natAbs)).foldlM step?
        (ofParts n.negative n.whole n.fraction)
      = some (ofNumber n) := by
  obtain ⟨negative, whole, fraction, exponent⟩ := n
  cases exponent with
  | none => rfl
  | some e =>
    have hmark : (ofParts negative whole fraction).step? 'e'
        = some { ofParts negative whole fraction with place := .mark } := by
      by_cases hf : fraction = [] <;> by_cases hw : whole = 0 <;>
        simp [step?, ofParts, wholePlace, hf, hw, Text.digitValue?]
    simp only [List.foldlM_cons, hmark, Option.bind_eq_bind, Option.bind_some]
    by_cases he : e < 0
    · have hsign : { ofParts negative whole fraction with place := .mark }.step? '-'
          = some { ofParts negative whole fraction with
              place := .markSign, exponentNegative := true } := by
        simp [step?, Text.digitValue?]
      simp only [he, if_true, List.cons_append, List.nil_append, List.foldlM_cons, hsign,
        Option.bind_eq_bind, Option.bind_some]
      rw [foldlM_step?_toDigits_exponent _ (Or.inr rfl)]
      simp [ofNumber, he]
    · rw [if_neg he, List.nil_append, foldlM_step?_toDigits_exponent _ (Or.inl rfl)]
      simp [ofNumber, he, ofParts]

end NumberState

namespace Scanner

/-- Characters that continue a number leave the scanner inside it. -/
theorem scan_number_append {s s' : NumberState} {cs : List Char} (rest : List Char)
    (h : cs.foldlM NumberState.step? s = some s') :
    scan (.number s) (cs ++ rest) = scan (.number s') rest := by
  induction cs generalizing s with
  | nil =>
    obtain rfl : s = s' := by simpa using h
    rfl
  | cons c cs ih =>
    rw [List.foldlM_cons, Option.bind_eq_bind, Option.bind_eq_some_iff] at h
    obtain ⟨t, hstep, hrest⟩ := h
    rw [List.cons_append, ← ih hrest]
    simp [scan, step, hstep]

/-- A number that may end does so in front of a boundary. -/
theorem scan_number_boundary {s : NumberState} {n : Number} {rest : List Char}
    (hv : s.value? = some n) (h : IsBoundary rest) :
    scan (.number s) rest = .number n :: scan .between rest := by
  cases rest with
  | nil => simp [scan, finish, hv]
  | cons c cs =>
    rw [isBoundary_cons] at h
    have hc : c = ' ' ∨ c = '\n' ∨ c = '\t' ∨ c = '\r' ∨ c = ',' ∨ c = ']' ∨ c = '\x7d' := by
      simpa [endsNumber, isBlankChar, or_assoc] using h
    have hdigit : Text.digitValue? c = none := by
      rcases hc with rfl | rfl | rfl | rfl | rfl | rfl | rfl <;> rfl
    have hchar : c ≠ '.' ∧ c ≠ 'e' ∧ c ≠ 'E' := by
      rcases hc with rfl | rfl | rfl | rfl | rfl | rfl | rfl <;> decide
    have hstep : s.step? c = none := by
      cases hp : s.place <;> simp_all [NumberState.step?, NumberState.value?]
    simp [scan, step, hstep, hv, NumberState.mayFollow, hdigit]

theorem scan_toDigits (n : Nat) (rest : List Char) :
    scan .between (Nat.toDigits 10 n ++ rest)
      = scan (.number (.start (NumberState.wholePlace n) false n)) rest := by
  have hstart : ∀ d : Fin 10, start (Text.digitChar d)
      = ([], .number (.start (if d.val = 0 then .zero else .whole) false d.val)) := by
    decide
  obtain ⟨d, cs, hds, hrun⟩ := NumberState.exists_foldlM_step?_toDigits false n
  rw [hds, List.cons_append, ← scan_number_append rest hrun, scan, step, hstart]
  rfl

theorem scan_minus_toDigits (n : Nat) (rest : List Char) :
    scan .between ('-' :: (Nat.toDigits 10 n ++ rest))
      = scan (.number (.start (NumberState.wholePlace n) true n)) rest := by
  obtain ⟨d, cs, hds, hrun⟩ := NumberState.exists_foldlM_step?_toDigits true n
  have hfirst : [Text.digitChar d].foldlM NumberState.step? (.start .sign true 0)
      = some (.start (if d.val = 0 then .zero else .whole) true d.val) := by
    simp [NumberState.step?, NumberState.start]
  have hall : (Nat.toDigits 10 n).foldlM NumberState.step? (.start .sign true 0)
      = some (.start (NumberState.wholePlace n) true n) := by
    rw [hds, ← List.singleton_append, List.foldlM_append, hfirst]
    exact hrun
  exact scan_number_append rest hall

end Scanner

/-- A number is scanned as one token in front of a boundary. -/
theorem scan_number (n : Number) {rest : List Char} (h : IsBoundary rest) :
    scan .between (n.chars ++ rest) = .number n :: scan .between rest := by
  have hwhole : ∀ tail, scan .between ((if n.negative then ['-'] else [])
        ++ (Nat.toDigits 10 n.whole ++ tail))
      = scan (.number (.start (NumberState.wholePlace n.whole) n.negative n.whole)) tail := by
    intro tail
    cases n.negative
    · exact scan_toDigits n.whole tail
    · exact scan_minus_toDigits n.whole tail
  rw [Number.chars, List.append_assoc, List.append_assoc, List.append_assoc, hwhole,
    scan_number_append _ (NumberState.foldlM_step?_point n.negative n.whole n.fraction)]
  exact (scan_number_append rest (NumberState.foldlM_step?_mark n)).trans
    (scan_number_boundary (NumberState.value?_ofNumber n) h)

-- ════════════════════════════════════════════════════════════════════════
-- Values
-- ════════════════════════════════════════════════════════════════════════

section Values

variable (cs : List Char)

theorem scan_comma : scan .between (',' :: cs) = .comma :: scan .between cs := rfl

theorem scan_colon : scan .between (':' :: cs) = .colon :: scan .between cs := rfl

theorem scan_blank : scan .between (' ' :: cs) = scan .between cs := rfl

theorem scan_openBracket : scan .between ('[' :: cs) = .openBracket :: scan .between cs := rfl

theorem scan_closeBracket : scan .between (']' :: cs) = .closeBracket :: scan .between cs := rfl

theorem scan_openBrace : scan .between ('\x7b' :: cs) = .openBrace :: scan .between cs := rfl

theorem scan_closeBrace : scan .between ('\x7d' :: cs) = .closeBrace :: scan .between cs := rfl

theorem scan_newLine (level : Nat) : scan .between (newLine level ++ cs) = scan .between cs := by
  have hblanks : ∀ k, scan .between (List.replicate k ' ' ++ cs) = scan .between cs := by
    intro k
    induction k with
    | zero => rfl
    | succ k ih => exact ih
  exact hblanks (2 * level)

theorem isBoundary_newLine (level : Nat) : IsBoundary (newLine level ++ cs) := by
  rw [newLine, List.cons_append, isBoundary_cons]
  decide

theorem isBoundary_closeBracket : IsBoundary (']' :: cs) := isBoundary_cons.2 (by decide)

theorem isBoundary_closeBrace : IsBoundary ('\x7d' :: cs) := isBoundary_cons.2 (by decide)

end Values

theorem isBoundary_compactItems (vs : List Json) {rest : List Char}
    (h : IsBoundary rest) : IsBoundary (compactItems vs ++ rest) := by
  cases vs with
  | nil => exact h
  | cons v vs =>
    rw [compactItems, List.cons_append, isBoundary_cons]
    decide

theorem isBoundary_compactMembers (ms : List (String × Json)) {rest : List Char}
    (h : IsBoundary rest) : IsBoundary (compactMembers ms ++ rest) := by
  cases ms with
  | nil => exact h
  | cons m ms =>
    rw [compactMembers, List.cons_append, isBoundary_cons]
    decide

mutual

/-- The text of a value on one line is scanned as the tokens of the value. -/
theorem scan_compactChars (v : Json) {rest : List Char} (h : IsBoundary rest) :
    scan .between (compactChars v ++ rest) = toTokens v ++ scan .between rest := by
  match v with
  | .null => rfl
  | .bool true => rfl
  | .bool false => rfl
  | .number n => exact scan_number n h
  | .string s => exact scan_quoted s rest
  | .array [] => rfl
  | .array (v :: vs) =>
    have hclose := isBoundary_closeBracket rest
    simp only [compactChars, toTokens, List.cons_append, List.append_assoc, List.nil_append]
    rw [scan_openBracket, scan_compactChars v (isBoundary_compactItems vs hclose),
      scan_compactItems vs hclose, scan_closeBracket]
  | .object [] => rfl
  | .object ((name, v) :: ms) =>
    have hclose := isBoundary_closeBrace rest
    simp only [compactChars, toTokens, List.cons_append, List.append_assoc, List.nil_append]
    rw [scan_openBrace, scan_quoted, scan_colon,
      scan_compactChars v (isBoundary_compactMembers ms hclose), scan_compactMembers ms hclose,
      scan_closeBrace]

theorem scan_compactItems (vs : List Json) {rest : List Char} (h : IsBoundary rest) :
    scan .between (compactItems vs ++ rest) = itemTokens vs ++ scan .between rest := by
  match vs with
  | [] => rfl
  | v :: vs =>
    simp only [compactItems, itemTokens, List.cons_append, List.append_assoc]
    rw [scan_comma, scan_compactChars v (isBoundary_compactItems vs h), scan_compactItems vs h]

theorem scan_compactMembers (ms : List (String × Json)) {rest : List Char}
    (h : IsBoundary rest) :
    scan .between (compactMembers ms ++ rest) = memberTokens ms ++ scan .between rest := by
  match ms with
  | [] => rfl
  | (name, v) :: ms =>
    simp only [compactMembers, memberTokens, List.cons_append, List.append_assoc]
    rw [scan_comma, scan_quoted, scan_colon,
      scan_compactChars v (isBoundary_compactMembers ms h), scan_compactMembers ms h]

end

theorem isBoundary_prettyItems (level : Nat) (vs : List Json) {rest : List Char}
    (h : IsBoundary rest) : IsBoundary (prettyItems level vs ++ rest) := by
  cases vs with
  | nil => exact h
  | cons v vs =>
    rw [prettyItems, List.cons_append, isBoundary_cons]
    decide

theorem isBoundary_prettyMembers (level : Nat) (ms : List (String × Json)) {rest : List Char}
    (h : IsBoundary rest) : IsBoundary (prettyMembers level ms ++ rest) := by
  cases ms with
  | nil => exact h
  | cons m ms =>
    rw [prettyMembers, List.cons_append, isBoundary_cons]
    decide

mutual

theorem scan_prettyChars (level : Nat) (v : Json) {rest : List Char}
    (h : IsBoundary rest) :
    scan .between (prettyChars level v ++ rest) = toTokens v ++ scan .between rest := by
  match v with
  | .null => rfl
  | .bool true => rfl
  | .bool false => rfl
  | .number n => exact scan_number n h
  | .string s => exact scan_quoted s rest
  | .array [] => rfl
  | .array (v :: vs) =>
    have hclose := isBoundary_newLine (']' :: rest) level
    simp only [prettyChars, toTokens, List.cons_append, List.append_assoc, List.nil_append]
    rw [scan_openBracket, scan_newLine,
      scan_prettyChars (level + 1) v (isBoundary_prettyItems (level + 1) vs hclose),
      scan_prettyItems (level + 1) vs hclose, scan_newLine, scan_closeBracket]
  | .object [] => rfl
  | .object ((name, v) :: ms) =>
    have hclose := isBoundary_newLine ('\x7d' :: rest) level
    simp only [prettyChars, toTokens, List.cons_append, List.append_assoc, List.nil_append]
    rw [scan_openBrace, scan_newLine, scan_quoted, scan_colon, scan_blank,
      scan_prettyChars (level + 1) v (isBoundary_prettyMembers (level + 1) ms hclose),
      scan_prettyMembers (level + 1) ms hclose, scan_newLine, scan_closeBrace]

theorem scan_prettyItems (level : Nat) (vs : List Json) {rest : List Char}
    (h : IsBoundary rest) :
    scan .between (prettyItems level vs ++ rest) = itemTokens vs ++ scan .between rest := by
  match vs with
  | [] => rfl
  | v :: vs =>
    simp only [prettyItems, itemTokens, List.cons_append, List.append_assoc]
    rw [scan_comma, scan_newLine,
      scan_prettyChars level v (isBoundary_prettyItems level vs h), scan_prettyItems level vs h]

theorem scan_prettyMembers (level : Nat) (ms : List (String × Json)) {rest : List Char}
    (h : IsBoundary rest) :
    scan .between (prettyMembers level ms ++ rest) = memberTokens ms ++ scan .between rest := by
  match ms with
  | [] => rfl
  | (name, v) :: ms =>
    simp only [prettyMembers, memberTokens, List.cons_append, List.append_assoc]
    rw [scan_comma, scan_newLine, scan_quoted, scan_colon, scan_blank,
      scan_prettyChars level v (isBoundary_prettyMembers level ms h),
      scan_prettyMembers level ms h]

end

theorem tokens_compactChars (v : Json) : tokens (compactChars v) = toTokens v := by
  have h := scan_compactChars v isBoundary_nil
  rwa [List.append_nil, scan, finish, List.append_nil] at h

theorem tokens_prettyChars (v : Json) : tokens (prettyChars 0 v) = toTokens v := by
  have h := scan_prettyChars 0 v isBoundary_nil
  rwa [List.append_nil, scan, finish, List.append_nil] at h

end EscrowLedger.Json
