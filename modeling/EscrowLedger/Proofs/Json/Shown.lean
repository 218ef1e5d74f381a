import EscrowLedger.Proofs.Json.Members

/-!
# What a text must show

Formats are readers. What they accept is described here by relations that read nothing: which
outlines name an alternative, and which ones give a text that may be left out. For a field of a
record it is further told what is given for it, if anything is.

## Main definitions

* `Json.Outline.Names` — an outline that names an alternative.
* `Json.Outline.GivesText` — what may be given for a text that may be left out.
* `Json.Format.given?` — what is read from something that may be left out.

## Main statements

* `Json.Format.ofOutline_choice_eq_ok_iff`, `Json.Format.ofOutline_ofText_eq_ok_iff`,
  `Json.Format.given?_optional_text_iff` — what is accepted.
* `Json.Field.receive?_of`, `Json.Field.foldlM_receive?_of` — what is given for a field is put into
  its part.
-/

namespace EscrowLedger.Json

variable {α ρ : Type}

namespace Outline

/-- Whether an outline names an alternative: by the name itself, or by an object that gives `null`
to the name and has no other member. -/
inductive Names (name : String) : Outline → Prop
  | text : Names name (.string (some name))
  | member : Names name (.object [(.string (some name), .null)])

/-- Whether something, or nothing, is given for a text that may be left out or be `null`. -/
inductive GivesText : Option Outline → Option String → Prop
  | absent : GivesText none none
  | null : GivesText (some .null) none
  | text (s : String) : GivesText (some (.string (some s))) (some s)

end Outline

namespace Format

theorem choose_eq_ok_iff {names : List (String × α)} {name : String} {a : α} :
    choose names name = .ok a ↔ names.lookup name = some a := by
  rw [choose]
  cases names.lookup name <;> simp

theorem ofOutline_choice_eq_ok_iff {names : List (String × α)} {o : Outline} {a : α} :
    (choice names).ofOutline o = .ok a ↔ ∃ name, o.Names name ∧ names.lookup name = some a := by
  constructor
  · intro h
    simp only [choice] at h
    split at h
    · next name => exact ⟨name, .text, choose_eq_ok_iff.1 h⟩
    · next name o rest =>
      obtain ⟨b, hname, h⟩ := Except.bind_eq_ok_iff.1 h
      split at h
      · split at h
        · next hrest =>
          rw [List.isEmpty_iff.1 hrest, ← Except.ok.inj h]
          exact ⟨name, .member, choose_eq_ok_iff.1 hname⟩
        · cases h
      · cases h
    · cases h
  · rintro ⟨name, hnames, hlookup⟩
    cases hnames with
    | text => exact choose_eq_ok_iff.2 hlookup
    | member =>
      apply Except.bind_eq_ok_iff.2
      exact ⟨a, choose_eq_ok_iff.2 hlookup, rfl⟩

theorem lookup_map_eq_some_iff {name : α → String} (hinj : ∀ {a b}, name a = name b → a = b)
    {as : List α} {n : String} {a : α} :
    (as.map fun a => (name a, a)).lookup n = some a ↔ a ∈ as ∧ n = name a := by
  induction as with
  | nil => simp
  | cons b as ih =>
    rw [List.map_cons, List.lookup_cons]
    split
    · next hn =>
      obtain rfl := beq_iff_eq.1 hn
      constructor
      · rintro ⟨⟩
        exact ⟨List.mem_cons_self, rfl⟩
      · rintro ⟨-, hname⟩
        rw [hinj hname]
    · next hn =>
      rw [ih, List.mem_cons]
      constructor
      · rintro ⟨ha, rfl⟩
        exact ⟨.inr ha, rfl⟩
      · rintro ⟨rfl | ha, rfl⟩
        · simp at hn
        · exact ⟨ha, rfl⟩

/-- Alternatives that have a name each are read where their names stand. -/
theorem ofOutline_named_eq_ok_iff {name : α → String} (hinj : ∀ {a b}, name a = name b → a = b)
    {as : List α} {o : Outline} {a : α} (ha : a ∈ as) :
    (choice (as.map fun a => (name a, a))).ofOutline o = .ok a ↔ o.Names (name a) := by
  rw [ofOutline_choice_eq_ok_iff]
  constructor
  · rintro ⟨n, hnames, hlookup⟩
    rwa [← ((lookup_map_eq_some_iff hinj).1 hlookup).2]
  · intro hnames
    exact ⟨name a, hnames, (lookup_map_eq_some_iff hinj).2 ⟨ha, rfl⟩⟩

theorem ofOutline_ofText_eq_ok_iff {expected : String} {read : String → Except Fault α}
    {o : Outline} {a : α} :
    (ofText expected read).ofOutline o = .ok a ↔ ∃ s, o = .string (some s) ∧ read s = .ok a := by
  constructor
  · intro h
    simp only [ofText] at h
    split at h
    · next s => exact ⟨s, rfl, h⟩
    · cases h
  · rintro ⟨s, rfl, h⟩
    exact h

theorem ofOutline_text_eq_ok_iff {o : Outline} {s : String} :
    text.ofOutline o = .ok s ↔ o = .string (some s) := by
  rw [text, ofOutline_ofText_eq_ok_iff]
  simp

/-- What is read from something that may be left out: nothing if nothing is given. -/
def given? (f : Format α) : Option Outline → Option (Option α)
  | none => some none
  | some o => (f.ofOutline o).toOption.map some

theorem given?_eq_some_some_iff {f : Format α} {o? : Option Outline} {a : α} :
    f.given? o? = some (some a) ↔ ∃ o, o? = some o ∧ f.ofOutline o = .ok a := by
  cases o? with
  | none => simp [given?]
  | some o => simp [given?, Except.toOption_eq_some_iff]

theorem given?_optional_text_iff {o? : Option Outline} {s : Option String} :
    (∃ t?, (optional text).given? o? = some t? ∧ t?.getD none = s) ↔ Outline.GivesText o? s := by
  constructor
  · rintro ⟨t?, ht, rfl⟩
    cases o? with
    | none =>
      cases ht
      exact .absent
    | some o =>
      obtain ⟨t, hread, rfl⟩ := Option.map_eq_some_iff.1 ht
      have hread := Except.toOption_eq_some_iff.1 hread
      simp only [optional] at hread
      split at hread
      · cases hread
        exact .null
      · obtain ⟨s, hs, rfl⟩ := Except.map_eq_ok_iff.1 hread
        rw [ofOutline_text_eq_ok_iff.1 hs]
        exact .text s
  · intro h
    cases h with
    | absent => exact ⟨none, rfl, rfl⟩
    | null => exact ⟨some none, rfl, rfl⟩
    | text s => exact ⟨some (some s), rfl, rfl⟩

end Format

@[simp] theorem toOption_need (absent : String → Fault) (name : String) (a : Option α) :
    (need absent name a).toOption = a := by
  cases a <;> rfl

namespace Field

section Given

variable {f : Format α} {name : String} {get : ρ → Option α} {set : ρ → α → ρ}
  {given? : String → Option Outline} {r : ρ}

/-- What is given for a field is put into its part; if nothing is given all stays as it is. -/
theorem receive?_of (put : Option α → ρ) (hnone : put none = r)
    (hsome : ∀ a, put (some a) = set r a) :
    receive? outline? given? r (of name f get set) = (f.given? (given? name)).map put := by
  have hname : (of name f get set).name = name := rfl
  rw [receive?, hname]
  cases given? name with
  | none =>
    rw [Format.given?, Option.map_some, hnone]
  | some o =>
    simp only [outline?_of, Format.given?, Option.map_map]
    congr 1
    funext a
    exact (hsome a).symm

theorem foldlM_receive?_of (put : Option α → ρ) (hnone : put none = r)
    (hsome : ∀ a, put (some a) = set r a) {fields : List (Field ρ)} {rest : Option α → Option ρ}
    (h : ∀ a?, fields.foldlM (receive? outline? given?) (put a?) = rest a?) :
    (of name f get set :: fields).foldlM (receive? outline? given?) r
      = (f.given? (given? name)).bind rest := by
  rw [List.foldlM_cons, receive?_of put hnone hsome]
  cases f.given? (given? name) with
  | none => rfl
  | some a? => exact h a?

end Given

end Field

end EscrowLedger.Json
