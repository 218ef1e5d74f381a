/-!
# Decimal and hexadecimal digits

Numbers are written with the digits of `Nat.toDigits` and read back with `Nat.ofDigitChars`. This
module adds leading zeros, the value of hexadecimal digits, and the reader that takes a bounded run
of decimal digits off a text.

## Main definitions

* `Text.padded` — a number with at least the given count of digits.
* `Text.takeDigits` — at most the given count of leading digits, and the rest.
* `Text.digitValue?`, `Text.hexValue?` — the value of a decimal digit, and of a hexadecimal digit of
  either case.

## Main statements

* `Text.ofDigitChars_padded` — leading zeros do not change the number read.
* `Text.takeDigits_append` — a run of digits that fits is taken off whole.
-/

namespace EscrowLedger.Text

/-- The decimal digits of a number, filled with leading zeros to at least the given count. -/
def padded (width n : Nat) : List Char :=
  List.replicate (width - (Nat.toDigits 10 n).length) '0' ++ Nat.toDigits 10 n

/-- Leading zeros do not change the number read. -/
@[simp] theorem ofDigitChars_padded (width n : Nat) :
    Nat.ofDigitChars 10 (padded width n) 0 = n := by
  simp [padded, Nat.ofDigitChars_append]

theorem isDigit_of_mem_padded {width n : Nat} {c : Char} (h : c ∈ padded width n) :
    c.isDigit = true := by
  rcases List.mem_append.1 h with h | h
  · rw [(List.mem_replicate.1 h).2]
    rfl
  · exact Nat.isDigit_of_mem_toDigits (by decide) (by decide) h

/-- A number below `10 ^ width` is written with exactly `width` digits. -/
theorem length_padded {width n : Nat} (hw : 0 < width) (h : n < Nat.pow 10 width) :
    (padded width n).length = width := by
  have := (Nat.length_toDigits_le_iff (b := 10) (by decide) hw).2 h
  simp only [padded, List.length_append, List.length_replicate]
  omega

theorem padded_ne_nil (width n : Nat) : padded width n ≠ [] := by
  simp [padded]

/-- At most `limit` leading decimal digits of a text, and what follows them. -/
def takeDigits : (limit : Nat) → List Char → List Char × List Char
  | 0, cs => ([], cs)
  | _ + 1, [] => ([], [])
  | limit + 1, c :: cs =>
    if c.isDigit then
      let run := takeDigits limit cs
      (c :: run.1, run.2)
    else ([], c :: cs)

/-- A run of digits that fits is taken off whole if no digit follows or the limit is reached. -/
theorem takeDigits_append {limit : Nat} {ds rest : List Char} (hd : ∀ c ∈ ds, c.isDigit = true)
    (hl : ds.length ≤ limit)
    (hr : ds.length = limit ∨ ∀ c r, rest = c :: r → c.isDigit = false) :
    takeDigits limit (ds ++ rest) = (ds, rest) := by
  induction ds generalizing limit with
  | nil =>
    cases limit with
    | zero => rfl
    | succ limit =>
      cases rest with
      | nil => rfl
      | cons c r =>
        rcases hr with h | h
        · simp at h
        · simp [takeDigits, h c r rfl]
  | cons d ds ih =>
    cases limit with
    | zero => simp at hl
    | succ limit =>
      have hrest : takeDigits limit (ds ++ rest) = (ds, rest) :=
        ih (fun c hc => hd c (by simp [hc])) (by simpa using hl) (by simpa using hr)
      simp [takeDigits, hd d (by simp), hrest]

def digitValue? (c : Char) : Option (Fin 10) :=
  if h : 48 ≤ c.toNat ∧ c.toNat ≤ 57 then some ⟨c.toNat - 48, by omega⟩ else none

def digitChar (d : Fin 10) : Char := Nat.digitChar d.val

@[simp] theorem digitValue?_digitChar : ∀ d : Fin 10, digitValue? (digitChar d) = some d := by
  decide

def hexValue? (c : Char) : Option (Fin 16) :=
  if h : 48 ≤ c.toNat ∧ c.toNat ≤ 57 then some ⟨c.toNat - 48, by omega⟩
  else if h : 97 ≤ c.toNat ∧ c.toNat ≤ 102 then some ⟨c.toNat - 87, by omega⟩
  else if h : 65 ≤ c.toNat ∧ c.toNat ≤ 70 then some ⟨c.toNat - 55, by omega⟩
  else none

def hexChar (d : Fin 16) : Char := Nat.digitChar d.val

@[simp] theorem hexValue?_hexChar : ∀ d : Fin 16, hexValue? (hexChar d) = some d := by decide

end EscrowLedger.Text
