/-!
# Ordered tables

A `Table κ α` is a finite map that keeps its entries in strictly increasing key order. Two tables
with the same contents are therefore the same value, and writing a table down needs no sorting.

## Main definitions

* `Table` — the entries together with the proof that their keys increase.
* `Table.get?` — the view through which all operations are described.
* `Table.insert`, `Table.erase`, `Table.ofList` — updates; a later value for a key replaces an
  earlier one.

## Main statements

* `Table.ext_get?` — tables that answer every look-up alike are equal.
* `Table.get?_insert`, `Table.get?_erase`, `Table.get?_ofList` — what each update does to the view.
* `Table.ofList_entries` — a table is rebuilt from its own entries.
-/

namespace EscrowLedger

variable {κ α β : Type}

/-- A finite map from `κ` to `α`, kept as its entries in strictly increasing key order. -/
structure Table (κ α : Type) [Ord κ] where
  /-- The entries, each key once, smallest key first. -/
  entries : List (κ × α)
  /-- Every key comes before all keys that stand after it. -/
  increasing : entries.Pairwise (fun a b => compare a.1 b.1 = .lt)
deriving DecidableEq

namespace Table

section Entries

variable [Ord κ]

/-- The value that a list of entries gives to a key: that of the first entry with this key. -/
def lookup (k : κ) : List (κ × α) → Option α
  | [] => none
  | (k', v) :: rest => if compare k k' = .eq then some v else lookup k rest

/-- Puts an entry at its place in an increasing list, replacing the entry with an equal key. -/
def insertEntry (k : κ) (v : α) : List (κ × α) → List (κ × α)
  | [] => [(k, v)]
  | (k', v') :: rest =>
    match compare k k' with
    | .lt => (k, v) :: (k', v') :: rest
    | .eq => (k, v) :: rest
    | .gt => (k', v') :: insertEntry k v rest

/-- An entry of the new list is the inserted one or stood there before. -/
theorem mem_insertEntry {k : κ} {v : α} {e : κ × α} {l : List (κ × α)} :
    e ∈ insertEntry k v l → e = (k, v) ∨ e ∈ l := by
  induction l with
  | nil => simp [insertEntry]
  | cons head rest ih =>
    obtain ⟨k', v'⟩ := head
    rw [insertEntry]
    split <;> grind

theorem pairwise_insertEntry [Std.TransOrd κ] [Std.LawfulEqOrd κ] (k : κ) (v : α)
    {l : List (κ × α)} (h : l.Pairwise (fun a b => compare a.1 b.1 = .lt)) :
    (insertEntry k v l).Pairwise (fun a b => compare a.1 b.1 = .lt) := by
  induction l with
  | nil => simp [insertEntry]
  | cons head rest ih =>
    obtain ⟨k', v'⟩ := head
    obtain ⟨hhead, hrest⟩ := List.pairwise_cons.1 h
    rw [insertEntry]
    split
    · next hk =>
      refine List.pairwise_cons.2 ⟨fun e he => ?_, h⟩
      rcases List.mem_cons.1 he with rfl | he
      · exact hk
      · exact Std.TransCmp.lt_trans hk (hhead e he)
    · next hk =>
      rw [Std.compare_eq_iff_eq] at hk
      subst hk
      exact List.pairwise_cons.2 ⟨hhead, hrest⟩
    · next hk =>
      refine List.pairwise_cons.2 ⟨fun e he => ?_, ih hrest⟩
      rcases mem_insertEntry he with rfl | he
      · exact Std.OrientedCmp.gt_iff_lt.1 hk
      · exact hhead e he

end Entries

section Operations

variable [Ord κ]

def empty : Table κ α := ⟨[], List.Pairwise.nil⟩

instance : EmptyCollection (Table κ α) := ⟨empty⟩

instance : Inhabited (Table κ α) := ⟨empty⟩

/-- The value under a key, if there is one. -/
def get? (t : Table κ α) (k : κ) : Option α := lookup k t.entries

def contains (t : Table κ α) (k : κ) : Bool := (t.get? k).isSome

def size (t : Table κ α) : Nat := t.entries.length

def insert [Std.TransOrd κ] [Std.LawfulEqOrd κ] (t : Table κ α) (k : κ) (v : α) : Table κ α :=
  ⟨insertEntry k v t.entries, pairwise_insertEntry k v t.increasing⟩

def erase (t : Table κ α) (k : κ) : Table κ α :=
  ⟨t.entries.filter (fun e => compare k e.1 != .eq), t.increasing.filter _⟩

/-- The table of a list of entries; of several entries with one key the last one counts. -/
def ofList [Std.TransOrd κ] [Std.LawfulEqOrd κ] (l : List (κ × α)) : Table κ α :=
  l.foldl (fun t e => t.insert e.1 e.2) empty

/-- Applies a function to every value. -/
def mapValues (f : α → β) (t : Table κ α) : Table κ β :=
  ⟨t.entries.map (fun e => (e.1, f e.2)), by
    simpa [List.pairwise_map] using t.increasing⟩

@[simp] theorem get?_empty (k : κ) : (∅ : Table κ α).get? k = none := rfl

/-- A look-up in a list that starts with larger keys finds nothing. -/
theorem lookup_eq_none {k : κ} {l : List (κ × α)} (h : ∀ e ∈ l, compare k e.1 = .lt) :
    lookup k l = none := by
  induction l with
  | nil => rfl
  | cons head rest ih =>
    have := h head (by simp)
    simp [lookup, this, ih (fun e he => h e (by simp [he]))]

theorem lookup_map (f : α → β) (k : κ) (l : List (κ × α)) :
    lookup k (l.map fun e => (e.1, f e.2)) = (lookup k l).map f := by
  induction l with
  | nil => rfl
  | cons head rest ih =>
    rw [List.map_cons, lookup, lookup, ih]
    split <;> rfl

@[simp] theorem get?_mapValues (f : α → β) (t : Table κ α) (k : κ) :
    (t.mapValues f).get? k = (t.get? k).map f :=
  lookup_map f k t.entries

theorem lookup_append (k : κ) (l₁ l₂ : List (κ × α)) :
    lookup k (l₁ ++ l₂) = (lookup k l₁).or (lookup k l₂) := by
  induction l₁ with
  | nil => rfl
  | cons head rest ih =>
    simp only [List.cons_append, lookup, ih]
    split <;> rfl

end Operations

section Views

variable [Ord κ] [Std.LawfulEqOrd κ]

/-- If no key stands twice, a look-up finds exactly the entries of the list. -/
theorem lookup_eq_some_iff_of_nodup {k : κ} {v : α} {l : List (κ × α)}
    (h : l.Pairwise (fun a b => b.1 ≠ a.1)) : lookup k l = some v ↔ (k, v) ∈ l := by
  induction l with
  | nil => simp [lookup]
  | cons head rest ih =>
    obtain ⟨k', v'⟩ := head
    obtain ⟨hhead, hrest⟩ := List.pairwise_cons.1 h
    rw [lookup]
    split
    · next hk =>
      rw [Std.compare_eq_iff_eq] at hk
      subst hk
      have hno : (k, v) ∉ rest := fun hm => hhead _ hm rfl
      simp only [List.mem_cons, hno, or_false, Prod.mk.injEq, true_and, Option.some.injEq]
      exact eq_comm
    · next hk =>
      have hne : k ≠ k' := fun e => hk (Std.compare_eq_iff_eq.2 e)
      simp [ih hrest, hne]

/-- In an increasing list a look-up finds exactly the entries that stand in it. -/
theorem lookup_eq_some_iff {k : κ} {v : α} {l : List (κ × α)}
    (h : l.Pairwise (fun a b => compare a.1 b.1 = .lt)) :
    lookup k l = some v ↔ (k, v) ∈ l :=
  lookup_eq_some_iff_of_nodup (h.imp fun {a b} h e => by simp [e] at h)

theorem get?_eq_some_iff {t : Table κ α} {k : κ} {v : α} :
    t.get? k = some v ↔ (k, v) ∈ t.entries :=
  lookup_eq_some_iff t.increasing

theorem lookup_insertEntry [DecidableEq κ] (k k' : κ) (v : α) (l : List (κ × α)) :
    lookup k' (insertEntry k v l) = if k' = k then some v else lookup k' l := by
  induction l with
  | nil => simp [insertEntry, lookup]
  | cons head rest ih =>
    obtain ⟨k₁, v₁⟩ := head
    rw [insertEntry]
    split
    · simp [lookup]
    · next hk =>
      rw [Std.compare_eq_iff_eq] at hk
      subst hk
      by_cases h : k' = k <;> simp [lookup, h]
    · next hk =>
      simp only [lookup, ih]
      by_cases h : k' = k
      · subst h
        simp [hk]
      · simp [h]

theorem get?_erase [DecidableEq κ] (t : Table κ α) (k k' : κ) :
    (t.erase k).get? k' = if k' = k then none else t.get? k' := by
  obtain ⟨l, hl⟩ := t
  simp only [get?, erase]
  clear hl
  induction l with
  | nil => simp [lookup]
  | cons head rest ih =>
    obtain ⟨k₁, v₁⟩ := head
    by_cases h₁ : k = k₁
    · subst h₁
      by_cases h : k' = k <;> simp_all [lookup]
    · by_cases h : k' = k
      · subst h
        simp_all [lookup]
      · by_cases h₂ : k' = k₁ <;> simp_all [lookup]

end Views

section Lemmas

variable [Ord κ] [Std.TransOrd κ] [Std.LawfulEqOrd κ]

theorem get?_insert [DecidableEq κ] (t : Table κ α) (k k' : κ) (v : α) :
    (t.insert k v).get? k' = if k' = k then some v else t.get? k' :=
  lookup_insertEntry k k' v t.entries

@[simp] theorem get?_insert_self (t : Table κ α) (k : κ) (v : α) :
    (t.insert k v).get? k = some v := by
  classical
  simp [get?_insert]

theorem get?_insert_of_ne (t : Table κ α) {k k' : κ} (v : α) (h : k' ≠ k) :
    (t.insert k v).get? k' = t.get? k' := by
  classical
  simp [get?_insert, h]

/-- Increasing lists that answer every look-up alike are equal. -/
theorem eq_of_lookup_eq {l₁ l₂ : List (κ × α)}
    (h₁ : l₁.Pairwise (fun a b => compare a.1 b.1 = .lt))
    (h₂ : l₂.Pairwise (fun a b => compare a.1 b.1 = .lt))
    (h : ∀ k, lookup k l₁ = lookup k l₂) : l₁ = l₂ := by
  have hmem : ∀ e, e ∈ l₁ ↔ e ∈ l₂ := fun e => by
    rw [← lookup_eq_some_iff h₁, ← lookup_eq_some_iff h₂, h]
  clear h
  induction l₁ generalizing l₂ with
  | nil =>
    cases l₂ with
    | nil => rfl
    | cons e r => exact absurd ((hmem e).2 (by simp)) (by simp)
  | cons e₁ r₁ ih =>
    cases l₂ with
    | nil => exact absurd ((hmem e₁).1 (by simp)) (by simp)
    | cons e₂ r₂ =>
      obtain ⟨hd₁, hr₁⟩ := List.pairwise_cons.1 h₁
      obtain ⟨hd₂, hr₂⟩ := List.pairwise_cons.1 h₂
      have hirr : ∀ e : κ × α, compare e.1 e.1 ≠ .lt := fun e => by simp
      have heq : e₁ = e₂ := by
        rcases List.mem_cons.1 ((hmem e₁).1 (by simp)) with h | h
        · exact h
        · rcases List.mem_cons.1 ((hmem e₂).2 (by simp)) with h' | h'
          · exact h'.symm
          · exact absurd (Std.TransCmp.lt_trans (hd₁ _ h') (hd₂ _ h)) (hirr _)
      subst heq
      congr 1
      refine ih hr₁ hr₂ fun e => ?_
      constructor
      · intro he
        rcases List.mem_cons.1 ((hmem e).1 (by simp [he])) with rfl | h
        · exact absurd (hd₁ _ he) (hirr _)
        · exact h
      · intro he
        rcases List.mem_cons.1 ((hmem e).2 (by simp [he])) with rfl | h
        · exact absurd (hd₂ _ he) (hirr _)
        · exact h

/-- Tables that answer every look-up alike are equal. -/
theorem ext_get? {t s : Table κ α} (h : ∀ k, t.get? k = s.get? k) : t = s := by
  obtain ⟨l₁, h₁⟩ := t
  obtain ⟨l₂, h₂⟩ := s
  have := eq_of_lookup_eq h₁ h₂ h
  subst this
  rfl

@[simp] theorem erase_insert (t : Table κ α) (k : κ) (v : α) :
    (t.insert k v).erase k = t.erase k := by
  classical
  refine ext_get? fun x => ?_
  by_cases h : x = k <;> simp [get?_insert, get?_erase, h]

/-- Folding insertions over entries: the last entry of a key counts, then the table before. -/
theorem get?_foldl_insert (l : List (κ × α)) (t : Table κ α) (k : κ) :
    (l.foldl (fun t e => t.insert e.1 e.2) t).get? k = (lookup k l.reverse).or (t.get? k) := by
  classical
  induction l generalizing t with
  | nil => rfl
  | cons e l ih =>
    rw [List.foldl_cons, ih, get?_insert, List.reverse_cons, lookup_append]
    by_cases h : k = e.1
    · subst h
      simp [lookup]
    · simp [lookup, h]

/-- A table built from a list answers with the last entry of each key. -/
theorem get?_ofList (l : List (κ × α)) (k : κ) : (ofList l).get? k = lookup k l.reverse := by
  rw [ofList, get?_foldl_insert]
  simp [show (empty : Table κ α).get? k = none from rfl]

@[simp] theorem ofList_entries (t : Table κ α) : ofList t.entries = t := by
  refine ext_get? fun k => Option.ext fun v => ?_
  rw [get?_ofList, get?_eq_some_iff]
  refine lookup_eq_some_iff_of_nodup ?_ |>.trans List.mem_reverse
  rw [List.pairwise_reverse]
  exact t.increasing.imp fun {a b} h e => by simp [e] at h

/-- An insertion adds an entry exactly if the key had no value. -/
theorem size_insert (t : Table κ α) (k : κ) (v : α) :
    (t.insert k v).size = if t.contains k then t.size else t.size + 1 := by
  obtain ⟨l, hl⟩ := t
  simp only [size, insert, contains, get?]
  induction l with
  | nil => simp [insertEntry, lookup]
  | cons head rest ih =>
    obtain ⟨k', v'⟩ := head
    obtain ⟨hhead, hrest⟩ := List.pairwise_cons.1 hl
    rw [insertEntry]
    split
    · next hk =>
      have : lookup k rest = none :=
        lookup_eq_none fun e he => Std.TransCmp.lt_trans hk (hhead e he)
      simp [lookup, hk, this]
    · next hk => simp [lookup, hk]
    · next hk =>
      simp only [List.length_cons, ih hrest, lookup, hk]
      by_cases h : (lookup k rest).isSome = true <;> simp [h]

/-- Folding insertions over entries with different new keys adds as many entries. -/
theorem size_foldl_insert {l : List (κ × α)} (t : Table κ α)
    (hl : l.Pairwise (fun a b => b.1 ≠ a.1)) (ht : ∀ e ∈ l, t.contains e.1 = false) :
    (l.foldl (fun t e => t.insert e.1 e.2) t).size = t.size + l.length := by
  induction l generalizing t with
  | nil => rfl
  | cons e l ih =>
    obtain ⟨hhead, hrest⟩ := List.pairwise_cons.1 hl
    have hnew : ∀ e' ∈ l, (t.insert e.1 e.2).contains e'.1 = false := by
      intro e' he'
      rw [contains, get?_insert_of_ne t e.2 (hhead e' he')]
      exact ht e' (List.mem_cons_of_mem e he')
    rw [List.foldl_cons, ih _ hrest hnew, size_insert, ht e List.mem_cons_self,
      if_neg Bool.false_ne_true, List.length_cons]
    omega

/-- A table built from entries with different keys has all of them. -/
theorem size_ofList {l : List (κ × α)} (hl : l.Pairwise (fun a b => b.1 ≠ a.1)) :
    (ofList l).size = l.length := by
  rw [ofList, size_foldl_insert empty hl fun _ _ => rfl]
  exact Nat.zero_add _

end Lemmas

end Table

end EscrowLedger
