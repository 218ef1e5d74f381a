import EscrowLedger.Text.Digits

/-!
# Job ids

A job is known by thirty-two hexadecimal digits. They are written in lower case, in five groups with
hyphens between them. Readers also take digits of either case, digits without hyphens, and the
groups between braces or after `urn:uuid:`.

## Main definitions

* `JobId` — the digits.
* `JobId.toText` and `JobId.ofText?` — the written form, and the reader of all forms.
* `JobId.ofNat` and `JobId.ofRandom` — the id of a number.

## Main statements

* `JobId.ofText?_toText` — the written form of an id is read back.
* `JobId.toText_inj` — different ids are written differently.
-/

namespace EscrowLedger

/-- Thirty-two hexadecimal digits. -/
structure JobId where
  digits : List (Fin 16)
  length_digits : digits.length = 32
deriving DecidableEq

namespace JobId

instance : Ord JobId := ⟨fun a b => compare a.digits b.digits⟩

instance : Std.TransOrd JobId where
  eq_swap {a b} :=
    (inferInstance : Std.TransOrd (List (Fin 16))).eq_swap (a := a.digits) (b := b.digits)
  isLE_trans {a b c} :=
    (inferInstance : Std.TransOrd (List (Fin 16))).isLE_trans
      (a := a.digits) (b := b.digits) (c := c.digits)

instance : Std.LawfulEqOrd JobId where
  compare_self {a} := (inferInstance : Std.LawfulEqOrd (List (Fin 16))).compare_self (a := a.digits)
  eq_of_compare {a b} h := by
    obtain ⟨da, ha⟩ := a
    obtain ⟨db, hb⟩ := b
    have : da = db := Std.compare_eq_iff_eq.1 h
    subst this
    rfl

/-- The id of a number below `16 ^ 32`; larger numbers lose their leading digits. -/
def ofNat (n : Nat) : JobId :=
  ⟨(List.range 32).map fun i => ⟨n / Nat.pow 16 (31 - i) % 16, Nat.mod_lt _ (by decide)⟩, by simp⟩

instance : Inhabited JobId := ⟨ofNat 0⟩

/-- The id of a random number below `16 ^ 32`. The thirteenth digit is the version 4, and the
seventeenth says with its first two bits that the id was drawn at random. -/
def ofRandom (n : Nat) : JobId :=
  let digits := (((ofNat n).digits).set 12 4).modify 16 fun d => 8 + d % 4
  ⟨digits, by simp [digits, (ofNat n).length_digits]⟩

def groups : List Nat := [8, 4, 4, 4, 12]

/-- Puts hyphens between groups of the given sizes; the last group takes what is left. -/
def hyphenate : List Nat → List Char → List Char
  | n :: m :: rest, cs => cs.take n ++ '-' :: hyphenate (m :: rest) (cs.drop n)
  | _, cs => cs

def unhyphenate? : List Nat → List Char → Option (List Char)
  | n :: m :: rest, cs =>
    match cs.drop n with
    | '-' :: later => (unhyphenate? (m :: rest) later).map (cs.take n ++ ·)
    | _ => none
  | _, cs => some cs

def chars (id : JobId) : List Char := hyphenate groups (id.digits.map Text.hexChar)

def toText (id : JobId) : String := String.ofList id.chars

def ofDigits? (cs : List Char) : Option JobId :=
  match cs.mapM Text.hexValue? with
  | some ds => if h : ds.length = 32 then some ⟨ds, h⟩ else none
  | none => none

def ofGroups? (cs : List Char) : Option JobId := (unhyphenate? groups cs).bind ofDigits?

def ofBraces? : List Char → Option JobId
  | '\x7b' :: rest =>
    match rest.reverse with
    | '\x7d' :: inner => ofGroups? inner.reverse
    | _ => none
  | _ => none

/-- The id that some characters name, in any of the accepted forms. -/
def ofChars? (cs : List Char) : Option JobId :=
  if cs.length = 32 then ofDigits? cs
  else if cs.length = 36 then ofGroups? cs
  else if cs.length = 38 then ofBraces? cs
  else if cs.length = 45 ∧ cs.take 9 = "urn:uuid:".toList then ofGroups? (cs.drop 9)
  else none

def ofText? (s : String) : Option JobId := ofChars? s.toList

theorem length_hyphenate {cs : List Char} (h : cs.length = 32) :
    (hyphenate groups cs).length = 36 := by
  simp [hyphenate, groups, h]

theorem unhyphenate?_hyphenate : ∀ (ns : List Nat) (cs : List Char),
    ns.dropLast.foldr (· + ·) 0 ≤ cs.length → unhyphenate? ns (hyphenate ns cs) = some cs := by
  intro ns
  induction ns with
  | nil => intro cs _; rfl
  | cons n rest ih =>
    cases rest with
    | nil => intro cs _; rfl
    | cons m rest =>
      intro cs h
      simp only [List.dropLast_cons_cons, List.foldr_cons] at h
      have hn : n ≤ cs.length := by omega
      have htake : (cs.take n).length = n := by simp [hn]
      have hd := ih (cs.drop n) (by rw [List.length_drop]; omega)
      simp only [hyphenate, unhyphenate?]
      rw [List.drop_append_of_le_length (by omega), List.take_append_of_le_length (by omega)]
      simp [List.take_take, hd]

theorem mapM_hexValue?_hexChar (ds : List (Fin 16)) :
    (ds.map Text.hexChar).mapM Text.hexValue? = some ds := by
  induction ds with
  | nil => rfl
  | cons d ds ih => simp [List.mapM_cons, ih]

@[simp] theorem ofDigits?_map_hexChar (id : JobId) :
    ofDigits? (id.digits.map Text.hexChar) = some id := by
  rw [ofDigits?, mapM_hexValue?_hexChar]
  simp [id.length_digits]

@[simp] theorem ofText?_toText (id : JobId) : ofText? id.toText = some id := by
  have hlen : (id.digits.map Text.hexChar).length = 32 := by simp [id.length_digits]
  have h36 : id.chars.length = 36 := length_hyphenate hlen
  rw [ofText?, toText, String.toList_ofList, ofChars?, if_neg (by omega), if_pos h36, ofGroups?,
    chars, unhyphenate?_hyphenate _ _ (by simp [groups, hlen])]
  exact ofDigits?_map_hexChar id

theorem toText_inj {a b : JobId} : a.toText = b.toText ↔ a = b := by
  constructor
  · intro h
    have := congrArg ofText? h
    simpa using this
  · rintro rfl
    rfl

end JobId

end EscrowLedger
