import EscrowLedger.Proofs.Json.Members
import EscrowLedger.Proofs.Json.Reading

/-!
# Values and their texts are decoded alike

A format is read in two ways, from a value in memory and from what a text shows. A value in memory
is a map at every level, so no name stands twice in it; on such values both ways have the same
outcome, although they visit members in different orders, treat what is left over by different rules
and find different faults first. The combinators of formats keep this.

## Main definitions

* `Json.hasDistinctNames` — no object repeats a name, at any depth.
* `Json.Format.Agrees`, `Json.Format.DecodesAlike` — both ways of reading have the same outcome on
  such values.
* `Json.Source` — values in memory and texts, with `Json.Format.decode` and what a decoder gets to
  see of them.

## Main statements

* `Json.Format.agrees_choice`, `Json.Format.agrees_optional`, `Json.Format.Agrees.refine` — formats
  of parts.
* `Json.Layout.agrees` — records.
* `Json.Format.Agrees.decodesAlike` — the two written forms of a value and the value itself.
* `Json.Format.Agrees.decode_eq_ok_iff` — sources of either kind.
-/

namespace EscrowLedger.Json

variable {α β ρ : Type}

-- ════════════════════════════════════════════════════════════════════════
-- Values in memory
-- ════════════════════════════════════════════════════════════════════════

mutual

/-- Whether no object in a value repeats a name. -/
def hasDistinctNames : Json → Bool
  | .array items => itemsDistinct items
  | .object members => decide (members.map (·.1)).Nodup && membersDistinct members
  | _ => true

def itemsDistinct : List Json → Bool
  | [] => true
  | v :: rest => hasDistinctNames v && itemsDistinct rest

def membersDistinct : List (String × Json) → Bool
  | [] => true
  | (_, v) :: rest => hasDistinctNames v && membersDistinct rest

end

theorem itemsDistinct_iff {items : List Json} :
    itemsDistinct items = true ↔ ∀ v ∈ items, v.hasDistinctNames = true := by
  induction items with
  | nil => simp [itemsDistinct]
  | cons v items ih => simp [itemsDistinct, ih]

theorem membersDistinct_iff {ms : List (String × Json)} :
    membersDistinct ms = true ↔ ∀ m ∈ ms, m.2.hasDistinctNames = true := by
  induction ms with
  | nil => simp [membersDistinct]
  | cons m ms ih => simp [membersDistinct, ih]

theorem hasDistinctNames_array {items : List Json} :
    (Json.array items).hasDistinctNames = true ↔ ∀ v ∈ items, v.hasDistinctNames = true := by
  rw [hasDistinctNames, itemsDistinct_iff]

theorem hasDistinctNames_object {ms : List (String × Json)} :
    (Json.object ms).hasDistinctNames = true ↔
      (ms.map (·.1)).Nodup ∧ ∀ m ∈ ms, m.2.hasDistinctNames = true := by
  rw [hasDistinctNames, Bool.and_eq_true, decide_eq_true_eq, membersDistinct_iff]

/-- If no name stands twice, members are found in the map as they are found in the list. -/
theorem get?_fields {ms : List (String × Json)} (h : (ms.map (·.1)).Nodup) (name : String) :
    (fields ms).get? name = Table.lookup name ms := by
  have hpairwise : ms.Pairwise fun a b => b.1 ≠ a.1 :=
    (List.pairwise_map.1 h).imp fun hne => hne.symm
  have hreverse : ms.reverse.Pairwise fun a b => b.1 ≠ a.1 :=
    List.pairwise_reverse.2 (hpairwise.imp fun hne => hne.symm)
  ext v
  rw [fields, Table.get?_ofList, Table.lookup_eq_some_iff_of_nodup hreverse,
    Table.lookup_eq_some_iff_of_nodup hpairwise, List.mem_reverse]

namespace Outline

theorem ofItems_eq (items : List Json) : ofItems items = items.map ofJson := by
  induction items with
  | nil => rfl
  | cons v items ih => rw [ofItems, ih, List.map_cons]

theorem ofMembers_eq (ms : List (String × Json)) :
    ofMembers ms = named (ms.map fun m => (m.1, ofJson m.2)) := by
  induction ms with
  | nil => rfl
  | cons m ms ih => rw [ofMembers, ih, named, named, List.map_cons, List.map_cons]

mutual

@[simp] theorem isWhole_ofJson (v : Json) : (ofJson v).isWhole = true := by
  match v with
  | .null | .bool _ | .number _ | .string _ => rfl
  | .array items => rw [ofJson, isWhole, itemsWhole_ofItems items]
  | .object ms => rw [ofJson, isWhole, membersWhole_ofMembers ms]

theorem itemsWhole_ofItems (items : List Json) : itemsWhole (ofItems items) = true := by
  match items with
  | [] => rfl
  | v :: items =>
    rw [ofItems, itemsWhole, isWhole_ofJson v, itemsWhole_ofItems items, Bool.and_self]

theorem membersWhole_ofMembers (ms : List (String × Json)) :
    membersWhole (ofMembers ms) = true := by
  match ms with
  | [] => rfl
  | (name, v) :: ms =>
    rw [ofMembers, membersWhole, isWhole_ofJson v, membersWhole_ofMembers ms, isName, Bool.and_self,
      Bool.and_self]

end

end Outline

-- ════════════════════════════════════════════════════════════════════════
-- Formats
-- ════════════════════════════════════════════════════════════════════════

namespace Format

/-- Whether a value in memory and its outline are read alike. -/
def Agrees (f : Format α) : Prop :=
  ∀ v : Json, v.hasDistinctNames = true →
    (f.ofValue v).toOption = (f.ofOutline (.ofJson v)).toOption

theorem agrees_ofText (expected : String) (read : String → Except Fault α) :
    (ofText expected read).Agrees := by
  intro v _
  cases v <;> rfl

theorem agrees_text : text.Agrees := agrees_ofText _ _

theorem agrees_optional {f : Format α} (h : f.Agrees) : (optional f).Agrees := by
  intro v hv
  cases v with
  | null => rfl
  | _ =>
    change ((f.ofValue _).map some).toOption = ((f.ofOutline _).map some).toOption
    rw [Except.toOption_map, Except.toOption_map]
    exact congrArg _ (h _ hv)

theorem Agrees.refine {f : Format α} (h : f.Agrees) (check : α → Except Fault β) :
    (f.refine check).Agrees := by
  intro v hv
  change (f.ofValue v >>= check).toOption = (f.ofOutline (.ofJson v) >>= check).toOption
  rw [Except.toOption_bind, Except.toOption_bind, h v hv]

/-- A choice may be an object of one member. Readers of values count the members first, readers of
texts look for further ones at the end. -/
theorem agrees_choice (names : List (String × α)) : (choice names).Agrees := by
  intro v hv
  cases v with
  | object ms =>
    match ms with
    | [] => rfl
    | [(name, v)] =>
      change (choose names name >>= _).toOption = (choose names name >>= _).toOption
      rw [Except.toOption_bind, Except.toOption_bind]
      cases v <;> rfl
    | (name, v) :: m :: ms =>
      have hvalue : ((choice names).ofValue (.object ((name, v) :: m :: ms))).toOption = none := by
        have hsize : (fields ((name, v) :: m :: ms)).entries.length = ms.length + 2 :=
          Table.size_ofList ((List.pairwise_map.1 (hasDistinctNames_object.1 hv).1).imp
            fun hne => hne.symm)
        simp only [choice]
        split
        · next hentries =>
          rw [hentries] at hsize
          simp at hsize
        · rfl
      have houtline : ((choice names).ofOutline
          (.ofJson (.object ((name, v) :: m :: ms)))).toOption = none := by
        change (choose names name >>= _).toOption = none
        rw [Except.toOption_bind]
        cases choose names name with
        | error e => rfl
        | ok a => cases v <;> rfl
      rw [hvalue, houtline]
  | _ => rfl

/-- Whether both texts of a value are decoded like the value itself. -/
def DecodesAlike (f : Format α) (v : Json) : Prop :=
  ∀ a, (f.readText v.compact = .ok a ↔ f.ofValue v = .ok a) ∧
    (f.readText v.pretty = .ok a ↔ f.ofValue v = .ok a)

theorem Agrees.decodesAlike {f : Format α} (h : f.Agrees) {v : Json}
    (hv : v.hasDistinctNames = true) : f.DecodesAlike v := by
  intro a
  rw [f.readText_compact, f.readText_pretty, ← Except.toOption_eq_some_iff,
    ← Except.toOption_eq_some_iff, h v hv]
  exact ⟨Iff.rfl, Iff.rfl⟩

end Format

-- ════════════════════════════════════════════════════════════════════════
-- Records
-- ════════════════════════════════════════════════════════════════════════

/-- Whether a field takes the same from a value in memory and from its outline. -/
def Field.Agrees (f : Field ρ) : Prop :=
  ∀ r, ∀ v : Json, v.hasDistinctNames = true → f.value? r v = f.outline? r (.ofJson v)

theorem Field.agrees_of {f : Format α} (h : f.Agrees) (name : String) (get : ρ → Option α)
    (set : ρ → α → ρ) : (Field.of name f get set).Agrees := by
  intro r v hv
  rw [value?_of, outline?_of, h v hv]

namespace Layout

variable {l : Layout ρ α}

theorem lookup_map_ofJson (name : String) (ms : List (String × Json)) :
    Table.lookup name (ms.map fun m => (m.1, Outline.ofJson m.2))
      = (Table.lookup name ms).map Outline.ofJson := by
  induction ms with
  | nil => rfl
  | cons m ms ih =>
    rw [List.map_cons, Table.lookup, Table.lookup, ih]
    split <;> rfl

theorem mem_of_lookup {name : String} {ms : List (String × Json)} {v : Json}
    (h : Table.lookup name ms = some v) : (name, v) ∈ ms := by
  induction ms with
  | nil => cases h
  | cons m ms ih =>
    obtain ⟨name', v'⟩ := m
    rw [Table.lookup] at h
    split at h
    · next hname =>
      cases h
      rw [Std.compare_eq_iff_eq.1 hname]
      exact List.mem_cons_self
    · exact List.mem_cons_of_mem _ (ih h)

/-- Members in memory and their outlines make up the same record. -/
theorem record?_eq (hf : ∀ f ∈ l.fields, f.Agrees) {ms : List (String × Json)}
    (hms : ∀ m ∈ ms, m.2.hasDistinctNames = true) :
    l.record? Field.value? ms
      = l.record? Field.outline? (ms.map fun m => (m.1, Outline.ofJson m.2)) := by
  rw [record?, record?]
  congr 1
  refine foldlM_congr (fun f hmem r => ?_) l.blank
  rw [Field.receive?, Field.receive?, lookup_map_ofJson]
  cases hlookup : Table.lookup f.name ms with
  | none => rfl
  | some v => exact hf f hmem r v (hms _ (mem_of_lookup hlookup))

/-- A record in memory is read like its outline if its fields are. -/
theorem agrees (hl : l.IsLawful) (hf : ∀ f ∈ l.fields, f.Agrees) : l.format.Agrees := by
  intro v hv
  cases v with
  | object ms =>
    obtain ⟨hnodup, hms⟩ := hasDistinctNames_object.1 hv
    have hentries : l.record? Field.value? (Json.fields ms).entries
        = l.record? Field.value? ms := by
      rw [record?, record?, ← funext (get?_fields hnodup)]
      rfl
    rw [ofValue_object hl, hentries, record?_eq hf hms]
    ext a
    rw [Except.toOption_eq_some_iff, ofOutline_eq_ok_iff hl, Outline.ofJson, Outline.ofMembers_eq]
    constructor
    · intro h
      refine ⟨_, .object ?_ ?_, h⟩
      · exact List.pairwise_map.2 ((List.pairwise_map.1 hnodup).imp fun hne _ => hne.symm)
      · intro m hm _
        obtain ⟨m, -, rfl⟩ := List.mem_map.1 hm
        exact Outline.isWhole_ofJson m.2
    · rintro ⟨ms', hgives, h⟩
      obtain ⟨rfl, -⟩ := Outline.gives_named_iff.1 hgives
      exact h
  | array items =>
    have hitems := hasDistinctNames_array.1 hv
    rw [ofValue_array hl, Outline.ofJson, Outline.ofItems_eq, ofOutline_array hl, List.length_map,
      List.zip_map_right, record?_eq hf]
    · rfl
    · rintro ⟨name, v⟩ hm
      exact hitems v (List.of_mem_zip hm).2
  | _ => rfl

end Layout

-- ════════════════════════════════════════════════════════════════════════
-- Values or texts
-- ════════════════════════════════════════════════════════════════════════

/-- What is handed to a decoder: a value in memory, in which no object repeats a name, or a text. -/
inductive Source where
  | value (v : Json) (distinct : v.hasDistinctNames = true)
  | text (s : String)

/-- Whether a source shows an outline. What follows a value in a text must be white space. -/
inductive Source.Shows : Source → Outline → Prop
  | value {v : Json} {distinct : v.hasDistinctNames = true} :
    Shows (.value v distinct) (.ofJson v)
  | text {s : String} {o : Outline} (h : Reading.ofText s = ⟨o, false⟩) : Shows (.text s) o

theorem Source.Shows.unique {src : Source} {o o' : Outline} (h : src.Shows o) (h' : src.Shows o') :
    o = o' := by
  cases h with
  | value =>
    cases h'
    rfl
  | text h =>
    cases h' with
    | text h' => exact congrArg Reading.root (h.symm.trans h')

namespace Format

def decode (f : Format α) : Source → Except Fault α
  | .value v _ => f.ofValue v
  | .text s => f.readText s

theorem readText_eq_ok_iff {f : Format α} {s : String} {a : α} :
    f.readText s = .ok a ↔ ∃ o, Reading.ofText s = ⟨o, false⟩ ∧ f.ofOutline o = .ok a := by
  rw [readText]
  generalize Reading.ofText s = reading
  obtain ⟨o, trailing⟩ := reading
  rw [Except.bind_eq_ok_iff]
  cases trailing <;> simp

/-- A source is decoded as what it shows. -/
theorem Agrees.decode_eq_ok_iff {f : Format α} (h : f.Agrees) {src : Source} {a : α} :
    f.decode src = .ok a ↔ ∃ o, src.Shows o ∧ f.ofOutline o = .ok a := by
  cases src with
  | value v hv =>
    rw [decode, ← Except.toOption_eq_some_iff, h v hv, Except.toOption_eq_some_iff]
    constructor
    · intro ha
      exact ⟨_, .value, ha⟩
    · rintro ⟨_, ⟨⟩, ha⟩
      exact ha
  | text s =>
    rw [decode, readText_eq_ok_iff]
    constructor
    · rintro ⟨o, ho, ha⟩
      exact ⟨o, .text ho, ha⟩
    · rintro ⟨o, ho, ha⟩
      cases ho with
      | text ho => exact ⟨o, ho, ha⟩

end Format

end EscrowLedger.Json
