import EscrowLedger.Json.Format
import EscrowLedger.Proofs.Results
import Mathlib.Data.List.Pairwise

/-!
# Records are read field by field

A record is read member by member as its members stand in the object, and unknown members are passed
over. If the fields do not get into each other's way, the outcome is that of reading the fields in
the order of declaration, each from the member that has its name. So neither the order of members
nor unknown members count. An array is the object that gives its items the names of the fields in
turn.

Only the outcome of a success is described. Which of several faults is reported does depend on the
order, and on whether a value in memory or a text is read.

## Main definitions

* `Json.NamesOnce` — none of the given names stands twice.
* `Json.Outline.Gives` — the members that an object or an array gives to a record.
* `Json.Layout.IsLawful` — the fields of a record do not get into each other's way.
* `Json.Layout.collect?` — the fields of a record, read in the order of declaration.

## Main statements

* `Json.Layout.foldlM_enter?` — members are read in any order.
* `Json.Layout.ofValue_object`, `Json.Layout.ofValue_array` — records in memory.
* `Json.Layout.ofOutline_eq_ok_iff` — records in texts.
-/

namespace EscrowLedger.Json

variable {α β ρ ι : Type}

-- ════════════════════════════════════════════════════════════════════════
-- Members and their names
-- ════════════════════════════════════════════════════════════════════════

/-- Whether none of the given names stands twice among some members. -/
def NamesOnce (names : List String) (ms : List (String × ι)) : Prop :=
  ms.Pairwise fun a b => a.1 ∈ names → b.1 ≠ a.1

/-- Only the names count. -/
theorem NamesOnce.of_names {names : List String} {ms ms' : List (String × ι)}
    (h : NamesOnce names ms) (hnames : ms.map (·.1) = ms'.map (·.1)) : NamesOnce names ms' := by
  have hpairwise : (ms.map (·.1)).Pairwise fun a b => a ∈ names → b ≠ a := List.pairwise_map.2 h
  rw [hnames] at hpairwise
  exact List.pairwise_map.1 hpairwise

theorem NamesOnce.lookup_eq_some_iff {names : List String} {ms : List (String × ι)}
    (h : NamesOnce names ms) {name : String} (hname : name ∈ names) {x : ι} :
    Table.lookup name ms = some x ↔ (name, x) ∈ ms := by
  induction ms with
  | nil => simp [Table.lookup]
  | cons m ms ih =>
    obtain ⟨name', y⟩ := m
    obtain ⟨hhead, hrest⟩ := List.pairwise_cons.1 h
    rw [Table.lookup]
    split
    · next hname' =>
      obtain rfl := Std.compare_eq_iff_eq.1 hname'
      have hno : (name, x) ∉ ms := fun hm => hhead _ hm hname rfl
      simp only [List.mem_cons, hno, or_false, Prod.mk.injEq, true_and, Option.some.injEq]
      exact eq_comm
    · next hname' =>
      have hne : name ≠ name' := fun e => hname' (Std.compare_eq_iff_eq.2 e)
      simp [ih hrest, hne]

namespace Outline

/-- The members of an object as a text shows them, if all of them have names. -/
def named (ms : List (String × Outline)) : List (Outline × Outline) :=
  ms.map fun m => (.string (some m.1), m.2)

/-- The members that an outline gives to a record whose fields have the given names. An object must
not repeat one of these names, and its other members need only be JSON; an array must not have more
items than there are fields. -/
inductive Gives (names : List String) : Outline → List (String × Outline) → Prop
  | object {ms : List (String × Outline)} (once : NamesOnce names ms)
      (whole : ∀ m ∈ ms, m.1 ∉ names → m.2.isWhole = true) : Gives names (.object (named ms)) ms
  | array {items : List Outline} (length_le : items.length ≤ names.length) :
      Gives names (.array items) (names.zip items)

theorem named_injective {ms ms' : List (String × Outline)} (h : named ms = named ms') :
    ms = ms' := by
  induction ms generalizing ms' with
  | nil => simpa [named] using h.symm
  | cons m ms ih =>
    cases ms' with
    | nil => simp [named] at h
    | cons m' ms' =>
      simp only [named, List.map_cons, List.cons.injEq, Prod.mk.injEq, Outline.string.injEq,
        Option.some.injEq] at h
      obtain ⟨⟨hname, hvalue⟩, hrest⟩ := h
      rw [ih hrest, Prod.ext hname hvalue]

theorem gives_named_iff {names : List String} {ms ms' : List (String × Outline)} :
    (object (named ms)).Gives names ms' ↔
      ms' = ms ∧ NamesOnce names ms ∧ ∀ m ∈ ms, m.1 ∉ names → m.2.isWhole = true := by
  constructor
  · intro h
    generalize ho : object (named ms) = o at h
    cases h with
    | object honce hwhole =>
      obtain rfl := named_injective (Outline.object.inj ho)
      exact ⟨rfl, honce, hwhole⟩
    | array => cases ho
  · rintro ⟨rfl, honce, hwhole⟩
    exact .object honce hwhole

theorem gives_array_iff {names : List String} {items : List Outline}
    {ms : List (String × Outline)} :
    (array items).Gives names ms ↔ ms = names.zip items ∧ items.length ≤ names.length := by
  constructor
  · intro h
    generalize ho : array items = o at h
    cases h with
    | object => cases ho
    | array hlength =>
      cases ho
      exact ⟨rfl, hlength⟩
  · rintro ⟨rfl, hlength⟩
    exact .array hlength

end Outline

-- ════════════════════════════════════════════════════════════════════════
-- Fields
-- ════════════════════════════════════════════════════════════════════════

namespace Field

def value? (f : Field ρ) (r : ρ) (v : Json) : Option ρ := (f.ofValue r v).toOption

def outline? (f : Field ρ) (r : ρ) (o : Outline) : Option ρ := (f.ofOutline r o).toOption

/-- Reads a field if something is given for it. -/
def receive? (read : Field ρ → ρ → ι → Option ρ) (given? : String → Option ι) (r : ρ)
    (f : Field ρ) : Option ρ :=
  match given? f.name with
  | some x => read f r x
  | none => some r

/-- Whether two fields may be read in either order. -/
def Commute (read : Field ρ → ρ → ι → Option ρ) (f g : Field ρ) : Prop :=
  ∀ r x y, (read f r x).bind (read g · y) = (read g r y).bind (read f · x)

/-- Whether two fields do not get into each other's way. -/
structure Independent (f g : Field ρ) : Prop where
  name_ne : f.name ≠ g.name
  commute_value : Commute value? f g
  commute_outline : Commute outline? f g
  isSet_left : ∀ {r o r'}, g.outline? r o = some r' → f.isSet r' = f.isSet r
  isSet_right : ∀ {r o r'}, f.outline? r o = some r' → g.isSet r' = g.isSet r

instance : Std.Symm (Independent (ρ := ρ)) where
  symm _ _ h := ⟨h.name_ne.symm, fun r x y => (h.commute_value r y x).symm,
    fun r x y => (h.commute_outline r y x).symm, h.isSet_right, h.isSet_left⟩

section Of

variable {f : Format α} {g : Format β} {name name' : String} {get : ρ → Option α}
  {get' : ρ → Option β} {set : ρ → α → ρ} {set' : ρ → β → ρ}

theorem value?_of (r : ρ) (v : Json) :
    (of name f get set).value? r v = (f.ofValue v).toOption.map (set r) :=
  Except.toOption_map _ _

theorem outline?_of (r : ρ) (o : Outline) :
    (of name f get set).outline? r o = (f.ofOutline o).toOption.map (set r) :=
  Except.toOption_map _ _

/-- Fields of different parts are independent. -/
theorem independent_of (hname : name ≠ name') (hset : ∀ r a b, set' (set r a) b = set (set' r b) a)
    (hget : ∀ r b, get (set' r b) = get r) (hget' : ∀ r a, get' (set r a) = get' r) :
    Independent (of name f get set) (of name' g get' set') where
  name_ne := hname
  commute_value r x y := by
    simp only [value?_of]
    cases (f.ofValue x).toOption <;> cases (g.ofValue y).toOption <;> simp [hset]
  commute_outline r x y := by
    simp only [outline?_of]
    cases (f.ofOutline x).toOption <;> cases (g.ofOutline y).toOption <;> simp [hset]
  isSet_left {r o r'} h := by
    rw [outline?_of] at h
    obtain ⟨b, -, rfl⟩ := Option.map_eq_some_iff.1 h
    exact congrArg Option.isSome (hget r b)
  isSet_right {r o r'} h := by
    rw [outline?_of] at h
    obtain ⟨a, -, rfl⟩ := Option.map_eq_some_iff.1 h
    exact congrArg Option.isSome (hget' r a)

theorem isSet_of (hget : ∀ r a, get (set r a) = some a) {r : ρ} {o : Outline} {r' : ρ}
    (h : (of name f get set).outline? r o = some r') : (of name f get set).isSet r' = true := by
  rw [outline?_of] at h
  obtain ⟨a, -, rfl⟩ := Option.map_eq_some_iff.1 h
  exact congrArg Option.isSome (hget r a)

end Of

end Field

-- ════════════════════════════════════════════════════════════════════════
-- Members in any order
-- ════════════════════════════════════════════════════════════════════════

section Perm

variable {γ δ : Type} {step : γ → δ → Option γ}

theorem bind_foldlM_eq_foldl (xs : List δ) (o : Option γ) :
    o.bind (fun r => xs.foldlM step r) = xs.foldl (fun o x => o.bind (step · x)) o := by
  induction xs generalizing o with
  | nil => cases o <;> rfl
  | cons x xs ih =>
    rw [List.foldl_cons, ← ih]
    cases o <;> rfl

/-- Steps that may be taken in either order may be taken in any order. -/
theorem foldlM_eq_of_perm {xs ys : List δ} (h : xs.Perm ys)
    (hcomm : ∀ x ∈ xs, ∀ y ∈ xs, ∀ r, (step r x).bind (step · y) = (step r y).bind (step · x))
    (r : γ) : xs.foldlM step r = ys.foldlM step r := by
  have hfold := h.foldl_eq' (f := fun o x => o.bind (step · x)) (fun x hx y hy o => ?_) (some r)
  · rwa [← bind_foldlM_eq_foldl, ← bind_foldlM_eq_foldl] at hfold
  · cases o with
    | none => rfl
    | some r => exact hcomm x hx y hy r

theorem foldlM_congr {step' : γ → δ → Option γ} {xs : List δ}
    (h : ∀ x ∈ xs, ∀ r, step r x = step' r x) (r : γ) : xs.foldlM step r = xs.foldlM step' r := by
  induction xs generalizing r with
  | nil => rfl
  | cons x xs ih =>
    obtain ⟨hx, hxs⟩ := List.forall_mem_cons.1 h
    rw [List.foldlM_cons, List.foldlM_cons, hx r]
    congr 1
    funext r'
    exact ih hxs r'

end Perm

-- ════════════════════════════════════════════════════════════════════════
-- Layouts
-- ════════════════════════════════════════════════════════════════════════

namespace Layout

/-- Whether the fields of a record do not get into each other's way, and whether it can be put
together does not depend on which fault is reported otherwise. -/
structure IsLawful (l : Layout ρ α) : Prop where
  independent : l.fields.Pairwise Field.Independent
  isSet_blank : ∀ f ∈ l.fields, f.isSet l.blank = false
  isSet_read : ∀ f ∈ l.fields, ∀ {r o r'}, f.outline? r o = some r' → f.isSet r' = true
  assemble_congr : ∀ absent absent' r,
    (l.assemble absent r).toOption = (l.assemble absent' r).toOption

variable (l : Layout ρ α) (read : Field ρ → ρ → ι → Option ρ)

def names : List String := l.fields.map (·.name)

/-- Reads a member; one with an unknown name is passed over. -/
def enter? (r : ρ) (m : String × ι) : Option ρ :=
  match l.field? m.1 with
  | some field => read field r m.2
  | none => some r

/-- Reads the fields in the order of declaration, as far as something is given for them. -/
def collect? (given? : String → Option ι) : Option ρ :=
  l.fields.foldlM (Field.receive? read given?) l.blank

/-- The record that members give. -/
def record? (ms : List (String × ι)) : Option α :=
  (l.collect? read (Table.lookup · ms)).bind fun r => (l.assemble .missingField r).toOption

variable {l read}

theorem IsLawful.independent_of_ne (hl : l.IsLawful) {f g : Field ρ} (hf : f ∈ l.fields)
    (hg : g ∈ l.fields) (hne : f ≠ g) : f.Independent g :=
  hl.independent.forall hf hg hne

theorem IsLawful.field?_eq_some_iff (hl : l.IsLawful) {name : String} {f : Field ρ} :
    l.field? name = some f ↔ f ∈ l.fields ∧ f.name = name := by
  constructor
  · intro h
    exact ⟨List.mem_of_find?_eq_some h, beq_iff_eq.1 (List.find?_some h :)⟩
  · rintro ⟨hf, rfl⟩
    obtain ⟨g, hg⟩ : ∃ g, l.field? f.name = some g :=
      Option.isSome_iff_exists.1 (List.find?_isSome.2 ⟨f, hf, beq_self_eq_true _⟩)
    have hname : g.name = f.name := beq_iff_eq.1 (List.find?_some hg :)
    have hgf : g = f := by
      by_contra hne
      exact (hl.independent_of_ne (List.mem_of_find?_eq_some hg) hf hne).name_ne hname
    rw [hg, hgf]

theorem field?_eq_none_iff {name : String} : l.field? name = none ↔ name ∉ l.names := by
  simp [field?, names, List.find?_eq_none]

/-- The fields that members have the names of, each with its value. -/
def known (l : Layout ρ α) (ms : List (String × ι)) : List (Field ρ × ι) :=
  ms.filterMap fun m => (l.field? m.1).map (·, m.2)

/-- The fields for which something is given, in the order of declaration. -/
def given (l : Layout ρ α) (get : String → Option ι) : List (Field ρ × ι) :=
  l.fields.filterMap fun f => (get f.name).map (f, ·)

theorem foldlM_enter?_eq (ms : List (String × ι)) (r : ρ) :
    ms.foldlM (l.enter? read) r = (l.known ms).foldlM (fun r e => read e.1 r e.2) r := by
  rw [known, List.foldlM_filterMap]
  congr 1
  funext r m
  rw [enter?]
  cases l.field? m.1 <;> rfl

theorem collect?_eq (get : String → Option ι) :
    l.collect? read get = (l.given get).foldlM (fun r e => read e.1 r e.2) l.blank := by
  rw [given, List.foldlM_filterMap, collect?]
  congr 1
  funext r f
  rw [Field.receive?]
  cases get f.name <;> rfl

theorem IsLawful.mem_known (hl : l.IsLawful) {ms : List (String × ι)} {f : Field ρ} {x : ι} :
    (f, x) ∈ l.known ms ↔ f ∈ l.fields ∧ (f.name, x) ∈ ms := by
  rw [known, List.mem_filterMap]
  constructor
  · rintro ⟨⟨name, y⟩, hm, he⟩
    obtain ⟨g, hg, heq⟩ := Option.map_eq_some_iff.1 he
    cases heq
    obtain ⟨hf, rfl⟩ := hl.field?_eq_some_iff.1 hg
    exact ⟨hf, hm⟩
  · rintro ⟨hf, hm⟩
    refine ⟨_, hm, ?_⟩
    rw [hl.field?_eq_some_iff.2 ⟨hf, rfl⟩]
    rfl

theorem mem_given {get : String → Option ι} {f : Field ρ} {x : ι} :
    (f, x) ∈ l.given get ↔ f ∈ l.fields ∧ get f.name = some x := by
  simp [given]

theorem name_mem_names {f : Field ρ} (h : f ∈ l.fields) : f.name ∈ l.names :=
  List.mem_map_of_mem h

theorem IsLawful.nodup_known (hl : l.IsLawful) {ms : List (String × ι)}
    (h : NamesOnce l.names ms) : (l.known ms).Nodup := by
  refine List.Pairwise.filterMap _ (fun m m' hne e he e' he' => ?_) h
  obtain ⟨f, hf, rfl⟩ := Option.map_eq_some_iff.1 he
  obtain ⟨f', hf', rfl⟩ := Option.map_eq_some_iff.1 he'
  obtain ⟨hmem, hname⟩ := hl.field?_eq_some_iff.1 hf
  obtain ⟨-, hname'⟩ := hl.field?_eq_some_iff.1 hf'
  intro heq
  obtain rfl : f = f' := congrArg Prod.fst heq
  exact hne (hname ▸ name_mem_names hmem) (hname'.symm.trans hname)

theorem IsLawful.nodup_given (hl : l.IsLawful) (get : String → Option ι) :
    (l.given get).Nodup := by
  refine List.Pairwise.filterMap _ (fun f f' hind e he e' he' => ?_) hl.independent
  obtain ⟨x, -, rfl⟩ := Option.map_eq_some_iff.1 he
  obtain ⟨x', -, rfl⟩ := Option.map_eq_some_iff.1 he'
  rintro ⟨⟩
  exact hind.name_ne rfl

/-- The members with known names are the fields that are given, in another order. -/
theorem IsLawful.given_perm_known (hl : l.IsLawful) {ms : List (String × ι)}
    (h : NamesOnce l.names ms) : (l.given (Table.lookup · ms)).Perm (l.known ms) := by
  apply (List.perm_ext_iff_of_nodup (hl.nodup_given _) (hl.nodup_known h)).2
  rintro ⟨f, x⟩
  rw [mem_given, hl.mem_known]
  constructor
  · rintro ⟨hf, hget⟩
    exact ⟨hf, (h.lookup_eq_some_iff (name_mem_names hf)).1 hget⟩
  · rintro ⟨hf, hmem⟩
    exact ⟨hf, (h.lookup_eq_some_iff (name_mem_names hf)).2 hmem⟩

/-- Members are read in any order: the outcome is that of reading the fields as they are declared.
-/
theorem IsLawful.foldlM_enter? (hl : l.IsLawful)
    (hread : ∀ {f g : Field ρ}, f.Independent g → Field.Commute read f g) {ms : List (String × ι)}
    (h : NamesOnce l.names ms) :
    ms.foldlM (l.enter? read) l.blank = l.collect? read (Table.lookup · ms) := by
  rw [foldlM_enter?_eq, collect?_eq]
  refine (foldlM_eq_of_perm (hl.given_perm_known h) ?_ l.blank).symm
  rintro ⟨f, x⟩ hx ⟨g, y⟩ hy r
  obtain ⟨hf, hx⟩ := mem_given.1 hx
  obtain ⟨hg, hy⟩ := mem_given.1 hy
  by_cases hfg : f = g
  · subst hfg
    rw [hx] at hy
    cases hy
    rfl
  · exact hread (hl.independent_of_ne hf hg hfg) r x y

-- ════════════════════════════════════════════════════════════════════════
-- Records in memory, and arrays
-- ════════════════════════════════════════════════════════════════════════

theorem IsLawful.nodup_names (hl : l.IsLawful) : l.names.Nodup :=
  List.pairwise_map.2 (hl.independent.imp fun h => h.name_ne)

/-- An object in memory is read like the fields of the record, whatever the order of its members. -/
theorem ofValue_object (hl : l.IsLawful) (ms : List (String × Json)) :
    (l.format.ofValue (.object ms)).toOption
      = l.record? Field.value? (Json.fields ms).entries := by
  have honce : NamesOnce l.names (Json.fields ms).entries :=
    (Json.fields ms).increasing.imp fun {a b} hlt _ heq => by simp [heq] at hlt
  have hmember : (fun r m => (l.readValueMember r m).toOption) = l.enter? Field.value? := by
    funext r m
    rw [readValueMember, enter?]
    cases l.field? m.1 <;> rfl
  rw [record?, ← hl.foldlM_enter? (fun h => h.commute_value) honce, ← hmember,
    ← Except.toOption_foldlM, ← Except.toOption_bind]
  rfl

theorem namesOnce_zip {names ns : List String} (h : ns.Nodup) (xs : List ι) :
    NamesOnce names (ns.zip xs) := by
  induction ns generalizing xs with
  | nil => exact .nil
  | cons n ns ih =>
    obtain ⟨hn, hns⟩ := List.nodup_cons.1 h
    cases xs with
    | nil => exact .nil
    | cons x xs =>
      refine List.pairwise_cons.2 ⟨fun m hm _ heq => hn ?_, ih hns xs⟩
      have hm : m.1 ∈ ns := (List.of_mem_zip hm).1
      rwa [heq] at hm

theorem toOption_readItems (hl : l.IsLawful) (get : Field ρ → ρ → ι → Except Fault ρ)
    {fs : List (Field ρ)} (hfs : ∀ f ∈ fs, f ∈ l.fields) (r : ρ) (items : List ι) :
    (readItems get fs r items).toOption
      = (((fs.map (·.name)).zip items).foldlM (l.enter? fun f r x => (get f r x).toOption) r).map
        (·, items.drop fs.length) := by
  induction fs generalizing r items with
  | nil => rfl
  | cons f fs ih =>
    cases items with
    | nil => rfl
    | cons x items =>
      have hstep : l.enter? (fun f r x => (get f r x).toOption) r (f.name, x)
          = (get f r x).toOption := by
        rw [enter?, hl.field?_eq_some_iff.2 ⟨hfs f List.mem_cons_self, rfl⟩]
      rw [readItems, Except.toOption_bind, List.map_cons, List.zip_cons_cons, List.foldlM_cons,
        hstep]
      cases (get f r x).toOption with
      | none => rfl
      | some r' => exact ih (fun g hg => hfs g (List.mem_cons_of_mem f hg)) r' items

/-- An array is read like the object that gives its items the names of the fields in turn. -/
theorem toOption_readArray (hl : l.IsLawful) (get : Field ρ → ρ → ι → Except Fault ρ)
    (hread : ∀ {f g : Field ρ}, f.Independent g →
      Field.Commute (fun f r x => (get f r x).toOption) f g)
    (absent : String → Fault) (tooLong : Fault) (items : List ι) :
    (do
      let (r, left) ← readItems get l.fields l.blank items
      let a ← l.assemble absent r
      if left.isEmpty then .ok a else .error tooLong : Except Fault α).toOption
      = if items.length ≤ l.names.length then
          l.record? (fun f r x => (get f r x).toOption) (l.names.zip items)
        else none := by
  have hleft : (items.drop l.fields.length).isEmpty = decide (items.length ≤ l.names.length) := by
    rw [Bool.eq_iff_iff, List.isEmpty_iff, List.drop_eq_nil_iff, decide_eq_true_iff, names,
      List.length_map]
  have honce : NamesOnce l.names (l.names.zip items) := namesOnce_zip hl.nodup_names items
  rw [Except.toOption_bind, toOption_readItems hl get (fun _ hf => hf), record?,
    ← hl.foldlM_enter? hread honce]
  change (Option.map _ ((l.names.zip items).foldlM _ _)).bind _ = _
  cases (l.names.zip items).foldlM (l.enter? fun f r x => (get f r x).toOption) l.blank with
  | none => simp
  | some r =>
    simp only [Option.map_some, Option.bind_some, Except.toOption_bind, hleft,
      hl.assemble_congr .missingField absent]
    by_cases hlength : items.length ≤ l.names.length
    · cases l.assemble absent r <;> simp [hlength, Except.toOption]
    · cases l.assemble absent r <;> simp [hlength, Except.toOption]

theorem ofValue_array (hl : l.IsLawful) (items : List Json) :
    (l.format.ofValue (.array items)).toOption
      = if items.length ≤ l.names.length then l.record? Field.value? (l.names.zip items)
        else none :=
  toOption_readArray hl Field.ofValue (fun h => h.commute_value) _ _ items

theorem ofOutline_array (hl : l.IsLawful) (items : List Outline) :
    (l.format.ofOutline (.array items)).toOption
      = if items.length ≤ l.names.length then l.record? Field.outline? (l.names.zip items)
        else none :=
  toOption_readArray hl Field.ofOutline (fun h => h.commute_outline) _ _ items

-- ════════════════════════════════════════════════════════════════════════
-- Records in texts
-- ════════════════════════════════════════════════════════════════════════

/-- A member must have a name. If a field has this name it must not have been read before, otherwise
the value must be JSON. -/
theorem readMember_eq_ok_iff {r r' : ρ} {m : Outline × Outline} :
    l.readMember r m = .ok r' ↔ ∃ name o, m = (.string (some name), o) ∧
      ((l.field? name = none ∧ o.isWhole = true ∧ r = r') ∨
        ∃ f, l.field? name = some f ∧ f.isSet r = false ∧ f.outline? r o = some r') := by
  constructor
  · intro h
    unfold readMember at h
    split at h
    · next name o =>
      refine ⟨name, o, rfl, ?_⟩
      split at h
      · next f hf =>
        refine .inr ⟨f, hf, ?_⟩
        split at h
        · cases h
        · next hset => exact ⟨Bool.eq_false_iff.2 hset, Except.toOption_eq_some_iff.2 h⟩
      · next hf =>
        refine .inl ⟨hf, ?_⟩
        split at h
        · next hwhole => exact ⟨hwhole, Except.ok.inj h⟩
        · cases h
    · cases h
  · rintro ⟨name, o, rfl, ⟨hf, hwhole, rfl⟩ | ⟨f, hf, hset, hread⟩⟩
    · simp only [readMember, hf, hwhole, if_true]
    · simp only [readMember, hf, hset, if_neg Bool.false_ne_true]
      exact Except.toOption_eq_some_iff.1 hread

/-- Whether no field that some members have the name of has been read. -/
def Unset (l : Layout ρ α) (r : ρ) (ms : List (String × ι)) : Prop :=
  ∀ m ∈ ms, ∀ f, l.field? m.1 = some f → f.isSet r = false

theorem unset_blank (hl : l.IsLawful) (ms : List (String × ι)) : l.Unset l.blank ms :=
  fun _ _ _ hf => hl.isSet_blank _ (hl.field?_eq_some_iff.1 hf).1

/-- After a field was read, the fields that were not are the others. -/
theorem unset_iff_of_outline? (hl : l.IsLawful) {name : String} {f : Field ρ}
    (hf : l.field? name = some f) {r r' : ρ} {o : Outline} (hread : f.outline? r o = some r')
    (ms : List (String × ι)) :
    l.Unset r' ms ↔ l.Unset r ms ∧ ∀ m ∈ ms, m.1 ≠ name := by
  obtain ⟨hmem, rfl⟩ := hl.field?_eq_some_iff.1 hf
  have hother : ∀ {m : String × ι} {g : Field ρ}, m.1 ≠ f.name → l.field? m.1 = some g →
      g.isSet r' = g.isSet r := by
    intro m g hne hg
    obtain ⟨hg, hname⟩ := hl.field?_eq_some_iff.1 hg
    have hfg : f ≠ g := by
      rintro rfl
      exact hne hname.symm
    exact (hl.independent_of_ne hmem hg hfg).isSet_right hread
  constructor
  · intro h
    have hne : ∀ m ∈ ms, m.1 ≠ f.name := by
      intro m hm hname
      have hset := h m hm f (hname ▸ hf)
      rw [hl.isSet_read f hmem hread] at hset
      cases hset
    exact ⟨fun m hm g hg => hother (hne m hm) hg ▸ h m hm g hg, hne⟩
  · rintro ⟨h, hne⟩ m hm g hg
    rw [hother (hne m hm) hg]
    exact h m hm g hg

/-- What members lead from one state of reading to another: no field is read twice, and what has an
unknown name is JSON. -/
structure Enters (l : Layout ρ α) (r r' : ρ) (ms : List (String × Outline)) : Prop where
  once : NamesOnce l.names ms
  whole : ∀ m ∈ ms, m.1 ∉ l.names → m.2.isWhole = true
  unset : l.Unset r ms
  read : ms.foldlM (l.enter? Field.outline?) r = some r'

section Enters

variable {name : String} {x : Outline} {ms : List (String × Outline)} {r r' : ρ}

theorem enters_nil : l.Enters r r' [] ↔ r = r' := by
  constructor
  · intro h
    exact Option.some.inj h.read
  · rintro rfl
    exact ⟨.nil, by simp, by simp [Unset], rfl⟩

theorem enters_cons_of_unknown (hf : l.field? name = none) :
    l.Enters r r' ((name, x) :: ms) ↔ x.isWhole = true ∧ l.Enters r r' ms := by
  have hname := field?_eq_none_iff.1 hf
  have hread : ((name, x) :: ms).foldlM (l.enter? Field.outline?) r
      = ms.foldlM (l.enter? Field.outline?) r := by
    rw [List.foldlM_cons, enter?, hf]
    rfl
  constructor
  · rintro ⟨honce, hwhole, hunset, hfold⟩
    obtain ⟨hx, hwhole⟩ := List.forall_mem_cons.1 hwhole
    exact ⟨hx hname, (List.pairwise_cons.1 honce).2, hwhole, (List.forall_mem_cons.1 hunset).2,
      hread ▸ hfold⟩
  · rintro ⟨hx, honce, hwhole, hunset, hfold⟩
    refine ⟨List.pairwise_cons.2 ⟨fun _ _ h => absurd h hname, honce⟩,
      List.forall_mem_cons.2 ⟨fun _ => hx, hwhole⟩, List.forall_mem_cons.2 ⟨?_, hunset⟩,
      hread.trans hfold⟩
    intro f hf'
    cases hf.symm.trans hf'

theorem enters_cons_of_known (hl : l.IsLawful) {f : Field ρ} (hf : l.field? name = some f) :
    l.Enters r r' ((name, x) :: ms) ↔
      f.isSet r = false ∧ ∃ r₁, f.outline? r x = some r₁ ∧ l.Enters r₁ r' ms := by
  have hname : name ∈ l.names := by
    by_contra hname
    cases (field?_eq_none_iff.2 hname).symm.trans hf
  have hread : ((name, x) :: ms).foldlM (l.enter? Field.outline?) r
      = (f.outline? r x).bind fun r => ms.foldlM (l.enter? Field.outline?) r := by
    rw [List.foldlM_cons, enter?, hf]
    rfl
  constructor
  · rintro ⟨honce, hwhole, hunset, hfold⟩
    obtain ⟨hne, honce⟩ := List.pairwise_cons.1 honce
    obtain ⟨hset, hunset⟩ := List.forall_mem_cons.1 hunset
    obtain ⟨r₁, hr₁, hfold⟩ := Option.bind_eq_some_iff.1 (hread ▸ hfold)
    refine ⟨hset f hf, r₁, hr₁, honce, (List.forall_mem_cons.1 hwhole).2, ?_, hfold⟩
    exact (unset_iff_of_outline? hl hf hr₁ ms).2 ⟨hunset, fun m hm => hne m hm hname⟩
  · rintro ⟨hset, r₁, hr₁, honce, hwhole, hunset, hfold⟩
    obtain ⟨hunset, hne⟩ := (unset_iff_of_outline? hl hf hr₁ ms).1 hunset
    refine ⟨List.pairwise_cons.2 ⟨fun m hm _ => hne m hm, honce⟩,
      List.forall_mem_cons.2 ⟨fun h => absurd hname h, hwhole⟩,
      List.forall_mem_cons.2 ⟨?_, hunset⟩, hread.trans (Option.bind_eq_some_iff.2 ⟨r₁, hr₁, hfold⟩)⟩
    intro g hg
    cases hf.symm.trans hg
    exact hset

end Enters

theorem foldlM_readMember_eq_ok_iff (hl : l.IsLawful) {os : List (Outline × Outline)} {r r' : ρ} :
    os.foldlM l.readMember r = .ok r' ↔ ∃ ms, os = Outline.named ms ∧ l.Enters r r' ms := by
  induction os generalizing r with
  | nil =>
    constructor
    · rintro ⟨⟩
      exact ⟨[], rfl, enters_nil.2 rfl⟩
    · rintro ⟨ms, hms, h⟩
      obtain rfl : ms = [] := Outline.named_injective hms.symm
      exact congrArg Except.ok (enters_nil.1 h)
  | cons o os ih =>
    rw [List.foldlM_cons, Except.bind_eq_ok_iff]
    constructor
    · rintro ⟨r₁, hm, hrest⟩
      obtain ⟨ms, rfl, h⟩ := ih.1 hrest
      obtain ⟨name, x, rfl, ⟨hf, hx, rfl⟩ | ⟨f, hf, hset, hread⟩⟩ := readMember_eq_ok_iff.1 hm
      · exact ⟨(name, x) :: ms, rfl, (enters_cons_of_unknown hf).2 ⟨hx, h⟩⟩
      · exact ⟨(name, x) :: ms, rfl, (enters_cons_of_known hl hf).2 ⟨hset, r₁, hread, h⟩⟩
    · rintro ⟨ms, hms, h⟩
      cases ms with
      | nil => cases hms
      | cons m ms =>
        obtain ⟨name, x⟩ := m
        obtain ⟨rfl, rfl⟩ := List.cons.inj hms
        cases hf : l.field? name with
        | none =>
          obtain ⟨hx, h⟩ := (enters_cons_of_unknown hf).1 h
          exact ⟨r, readMember_eq_ok_iff.2 ⟨name, x, rfl, .inl ⟨hf, hx, rfl⟩⟩, ih.2 ⟨ms, rfl, h⟩⟩
        | some f =>
          obtain ⟨hset, r₁, hread, h⟩ := (enters_cons_of_known hl hf).1 h
          exact ⟨r₁, readMember_eq_ok_iff.2 ⟨name, x, rfl, .inr ⟨f, hf, hset, hread⟩⟩,
            ih.2 ⟨ms, rfl, h⟩⟩

/-- A record is read from an outline exactly if the outline gives the members of the record. -/
theorem ofOutline_eq_ok_iff (hl : l.IsLawful) {o : Outline} {a : α} :
    l.format.ofOutline o = .ok a ↔
      ∃ ms, o.Gives l.names ms ∧ l.record? Field.outline? ms = some a := by
  cases o with
  | object os =>
    change (os.foldlM l.readMember l.blank >>= l.assemble .missingField) = .ok a ↔ _
    rw [Except.bind_eq_ok_iff]
    constructor
    · rintro ⟨r, hfold, ha⟩
      obtain ⟨ms, rfl, henters⟩ := (foldlM_readMember_eq_ok_iff hl).1 hfold
      have hcollect := henters.read
      rw [hl.foldlM_enter? (fun h => h.commute_outline) henters.once] at hcollect
      exact ⟨ms, .object henters.once henters.whole,
        Option.bind_eq_some_iff.2 ⟨r, hcollect, Except.toOption_eq_some_iff.2 ha⟩⟩
    · rintro ⟨ms, hgives, hrecord⟩
      cases hgives with
      | object honce hwhole =>
        obtain ⟨r, hfold, ha⟩ := Option.bind_eq_some_iff.1 hrecord
        rw [← hl.foldlM_enter? (fun h => h.commute_outline) honce] at hfold
        have henters : l.Enters l.blank r ms := ⟨honce, hwhole, unset_blank hl ms, hfold⟩
        exact ⟨r, (foldlM_readMember_eq_ok_iff hl).2 ⟨ms, rfl, henters⟩,
          Except.toOption_eq_some_iff.1 ha⟩
  | array items =>
    rw [← Except.toOption_eq_some_iff, ofOutline_array hl]
    constructor
    · intro h
      split at h
      · next hlength => exact ⟨_, .array hlength, h⟩
      · cases h
    · rintro ⟨ms, hgives, hrecord⟩
      cases hgives with
      | array hlength => rwa [if_pos hlength]
  | _ =>
    constructor
    · intro h
      cases h
    · rintro ⟨ms, hgives, -⟩
      cases hgives

end Layout

end EscrowLedger.Json
