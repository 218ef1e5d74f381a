import EscrowLedger.Json.Format
import EscrowLedger.Proofs.Json.Scan

/-!
# Reading written values back

The tokens of a value lead from the place where a value must follow to the place after it, whatever
arrays and objects are open around. So the text of a value, in either written form, shows exactly
that value and nothing behind it.

## Main statements

* `Json.Place.foldl_step_toTokens` — the tokens of a value build its outline.
* `Json.Reading.ofText_compact`, `Json.Reading.ofText_pretty` — what a reader sees of a written
  value.
* `Json.parse?_compact`, `Json.parse?_pretty` — the two written forms are read back.
* `Json.Format.readText_compact`, `Json.Format.readText_pretty` — decoding a written value is
  decoding its outline.
-/

namespace EscrowLedger.Json

theorem exists_toTokens_eq_cons (v : Json) :
    ∃ t ts, toTokens v = t :: ts ∧ t ≠ .closeBracket := by
  match v with
  | .null | .bool _ | .number _ | .string _ => exact ⟨_, _, rfl, by simp⟩
  | .array [] | .array (_ :: _) => exact ⟨_, _, rfl, by simp⟩
  | .object [] | .object ((_, _) :: _) => exact ⟨_, _, rfl, by simp⟩

namespace Place

/-- A value stands behind an opening bracket as it stands behind a comma. -/
theorem foldl_step_firstItem (v : Json) (outer : List Frame) :
    (toTokens v).foldl step (.firstItem outer)
      = (toTokens v).foldl step (.value (.item [] :: outer)) := by
  obtain ⟨t, ts, hts, ht⟩ := exists_toTokens_eq_cons v
  simp only [hts, List.foldl_cons, step, if_neg ht]

mutual

/-- The tokens of a value build its outline, whatever is open around it. -/
theorem foldl_step_toTokens (v : Json) (outer : List Frame) :
    (toTokens v).foldl step (.value outer) = after (Outline.ofJson v) outer := by
  match v with
  | .null => rfl
  | .bool _ => rfl
  | .number _ => rfl
  | .string _ => rfl
  | .array [] => rfl
  | .array (v :: vs) =>
    rw [toTokens, List.foldl_cons, List.foldl_append, step, start, foldl_step_firstItem,
      foldl_step_toTokens v, after, foldl_step_itemTokens vs]
    rfl
  | .object [] => rfl
  | .object ((name, v) :: ms) =>
    have hname : [Token.openBrace, .string (some name), .colon].foldl step (.value outer)
        = .value (.member [] (.string (some name)) :: outer) := rfl
    have hsplit : toTokens (.object ((name, v) :: ms))
        = [.openBrace, .string (some name), .colon]
          ++ (toTokens v ++ (memberTokens ms ++ [.closeBrace])) := rfl
    rw [hsplit, List.foldl_append, hname, List.foldl_append, foldl_step_toTokens v, after,
      foldl_step_memberTokens ms]
    rfl

/-- The tokens of further items and of the closing bracket complete an array. -/
theorem foldl_step_itemTokens (vs : List Json) (before : List Outline) (outer : List Frame) :
    (itemTokens vs ++ [Token.closeBracket]).foldl step (.afterItem before outer)
      = after (.array (before.reverse ++ Outline.ofItems vs)) outer := by
  match vs with
  | [] =>
    rw [Outline.ofItems, List.append_nil]
    rfl
  | v :: vs =>
    rw [itemTokens, List.cons_append, List.foldl_cons, List.append_assoc, List.foldl_append, step,
      if_pos rfl, foldl_step_toTokens v, after, foldl_step_itemTokens vs]
    simp [Outline.ofItems]

theorem foldl_step_memberTokens (ms : List (String × Json)) (before : List (Outline × Outline))
    (outer : List Frame) :
    (memberTokens ms ++ [Token.closeBrace]).foldl step (.afterMember before outer)
      = after (.object (before.reverse ++ Outline.ofMembers ms)) outer := by
  match ms with
  | [] =>
    rw [Outline.ofMembers, List.append_nil]
    rfl
  | (name, v) :: ms =>
    have hname : [Token.comma, .string (some name), .colon].foldl step (.afterMember before outer)
        = .value (.member before (.string (some name)) :: outer) := rfl
    have hsplit : memberTokens ((name, v) :: ms) ++ [.closeBrace]
        = [.comma, .string (some name), .colon]
          ++ (toTokens v ++ (memberTokens ms ++ [.closeBrace])) := by
      simp [memberTokens]
    rw [hsplit, List.foldl_append, hname, List.foldl_append, foldl_step_toTokens v, after,
      foldl_step_memberTokens ms]
    simp [Outline.ofMembers]

end

end Place

namespace Reading

theorem ofTokens_toTokens (v : Json) : ofTokens (toTokens v) = ⟨Outline.ofJson v, false⟩ := by
  rw [ofTokens, Place.foldl_step_toTokens]
  rfl

@[simp] theorem ofText_compact (v : Json) : ofText v.compact = ⟨Outline.ofJson v, false⟩ := by
  rw [ofText, compact, String.toList_ofList, tokens_compactChars, ofTokens_toTokens]

@[simp] theorem ofText_pretty (v : Json) : ofText v.pretty = ⟨Outline.ofJson v, false⟩ := by
  rw [ofText, pretty, String.toList_ofList, tokens_prettyChars, ofTokens_toTokens]

end Reading

namespace Outline

mutual

@[simp] theorem toJson?_ofJson (v : Json) : toJson? (ofJson v) = some v := by
  match v with
  | .null => rfl
  | .bool _ => rfl
  | .number _ => rfl
  | .string _ => rfl
  | .array vs => rw [ofJson, toJson?, toItems?_ofItems vs, Option.map_some]
  | .object ms => rw [ofJson, toJson?, toMembers?_ofMembers ms, Option.map_some]

theorem toItems?_ofItems (vs : List Json) : toItems? (ofItems vs) = some vs := by
  match vs with
  | [] => rfl
  | v :: vs => simp [ofItems, toItems?, toJson?_ofJson v, toItems?_ofItems vs]

theorem toMembers?_ofMembers (ms : List (String × Json)) :
    toMembers? (ofMembers ms) = some ms := by
  match ms with
  | [] => rfl
  | (name, v) :: ms => simp [ofMembers, toMembers?, toJson?_ofJson v, toMembers?_ofMembers ms]

end

end Outline

theorem parse?_compact (v : Json) : parse? v.compact = some v := by
  simp [parse?]

theorem parse?_pretty (v : Json) : parse? v.pretty = some v := by
  simp [parse?]

namespace Format

variable {α : Type} (f : Format α)

theorem readText_compact (v : Json) : f.readText v.compact = f.ofOutline (.ofJson v) := by
  simp only [readText, Reading.ofText_compact]
  cases f.ofOutline (.ofJson v) <;> rfl

theorem readText_pretty (v : Json) : f.readText v.pretty = f.ofOutline (.ofJson v) := by
  simp only [readText, Reading.ofText_pretty]
  cases f.ofOutline (.ofJson v) <;> rfl

/-- Members that are read from a text are entered one by one. -/
theorem foldlM_readMember_ofMembers {w : α → Json} (hw : ∀ a, f.ofOutline (.ofJson (w a)) = .ok a)
    (l : List (String × α)) (t : Table String α) :
    (Outline.ofMembers (l.map fun e => (e.1, w e.2))).foldlM (readMember f) t
      = .ok (l.foldl (fun t e => t.insert e.1 e.2) t) := by
  induction l generalizing t with
  | nil => rfl
  | cons e l ih =>
    have hstep : readMember f t (.string (some e.1), .ofJson (w e.2)) = .ok (t.insert e.1 e.2) := by
      rw [readMember, hw]
      rfl
    rw [List.map_cons, Outline.ofMembers, List.foldlM_cons, hstep]
    exact ih (t.insert e.1 e.2)

/-- A map is read back from its own entries if its values are. -/
theorem ofOutline_mapOf {w : α → Json} (hw : ∀ a, f.ofOutline (.ofJson (w a)) = .ok a)
    (t : Table String α) :
    (mapOf f).ofOutline (.ofJson (.object (t.entries.map fun e => (e.1, w e.2)))) = .ok t := by
  refine (foldlM_readMember_ofMembers f hw t.entries ∅).trans ?_
  exact congrArg Except.ok (Table.ofList_entries t)

end Format

/-- A member that has the name of a field, and a value of its format, is read as this field if it was
not read before. -/
theorem Layout.foldlM_readMember_of {ρ α β : Type} {l : Layout ρ α} {name : String} {f : Format β}
    {get : ρ → Option β} {set : ρ → β → ρ} (h : l.field? name = some (.of name f get set)) {r : ρ}
    (hr : get r = none) {v : Json} {a : β} (hv : f.ofOutline (.ofJson v) = .ok a)
    (ms : List (String × Json)) :
    (Outline.ofMembers ((name, v) :: ms)).foldlM l.readMember r
      = (Outline.ofMembers ms).foldlM l.readMember (set r a) := by
  have hset : (Field.of name f get set).isSet r = false := by
    change (get r).isSome = false
    rw [hr]
    rfl
  have hread : l.readMember r (.string (some name), .ofJson v) = .ok (set r a) := by
    simp only [readMember, h, hset]
    change (f.ofOutline (.ofJson v)).map (set r) = _
    rw [hv]
    rfl
  rw [Outline.ofMembers, List.foldlM_cons, hread]
  rfl

end EscrowLedger.Json
