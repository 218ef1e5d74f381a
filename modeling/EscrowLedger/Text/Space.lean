/-!
# White space

The characters of the Unicode property `White_Space`, and texts made of nothing else. A value that
must be present is refused when it is blank in this sense, not only when it is empty.

## Main definitions

* `Text.isSpace` — the twenty-five characters of the property.
* `Text.isBlank` — whether a text holds white space only.
* `Text.skipSpaces` — what is left of a text after its leading white space.
-/

namespace EscrowLedger.Text

/-- The ranges of code points that carry the property `White_Space`. -/
def spaceRanges : List (Nat × Nat) :=
  [(0x9, 0xD), (0x20, 0x20), (0x85, 0x85), (0xA0, 0xA0), (0x1680, 0x1680), (0x2000, 0x200A),
    (0x2028, 0x2029), (0x202F, 0x202F), (0x205F, 0x205F), (0x3000, 0x3000)]

def isSpace (c : Char) : Bool :=
  spaceRanges.any fun r => r.1 ≤ c.toNat && c.toNat ≤ r.2

/-- Whether a text holds white space only; the empty text does. -/
def isBlank (s : String) : Bool := s.toList.all isSpace

def skipSpaces (cs : List Char) : List Char := cs.dropWhile isSpace

@[simp] theorem isBlank_empty : isBlank "" = true := rfl

/-- A text that is not blank is not empty. -/
theorem ne_empty_of_not_isBlank {s : String} (h : isBlank s = false) : s ≠ "" := by
  rintro rfl
  simp at h

/-- Nothing is skipped in front of a character that is no white space. -/
theorem skipSpaces_cons {c : Char} {cs : List Char} (h : isSpace c = false) :
    skipSpaces (c :: cs) = c :: cs := by
  simp [skipSpaces, h]

/-- The digits are no white space. -/
theorem not_isSpace_of_isDigit {c : Char} (h : c.isDigit = true) : isSpace c = false := by
  simp only [Char.isDigit, Bool.and_eq_true, decide_eq_true_eq, UInt32.le_iff_toNat_le] at h
  have h₁ : 48 ≤ c.toNat := h.1
  have h₂ : c.toNat ≤ 57 := h.2
  simp only [isSpace, spaceRanges, List.any_cons, List.any_nil, Bool.or_false,
    Bool.or_eq_false_iff, Bool.and_eq_false_iff, decide_eq_false_iff_not]
  omega

end EscrowLedger.Text
