import EscrowLedger.Proofs.Json.Members

/-!
# Members in another order, and further members

What a record is read as does not change when the members of the object are put in another order, or
when members with unknown names come or go. In a text this holds as long as such members are JSON at
all. An object that repeats a known name is never read.

## Main definitions

* `Json.Outline.Reordered` — objects with the same known members.
* `Json.Outline.Repeats` — objects that repeat a known name.

## Main statements

* `Json.Outline.Reordered.exists_gives` — they give the same to a record.
* `Json.Layout.ofOutline_of_reordered` — so the same record is read from them.
* `Json.Outline.Repeats.not_gives` — objects that repeat a known name give nothing.
-/

namespace EscrowLedger.Json

variable {α ρ ι : Type}

/-- The members that have one of the given names. -/
def knownMembers (names : List String) (ms : List (String × ι)) : List (String × ι) :=
  ms.filter (·.1 ∈ names)

theorem mem_knownMembers {names : List String} {ms : List (String × ι)} {m : String × ι} :
    m ∈ knownMembers names ms ↔ m ∈ ms ∧ m.1 ∈ names := by
  simp [knownMembers]

theorem namesOnce_iff_nodup {names : List String} {ms : List (String × ι)} :
    NamesOnce names ms ↔ ((knownMembers names ms).map (·.1)).Nodup := by
  rw [List.nodup_iff_pairwise_ne, List.pairwise_map, knownMembers, List.pairwise_filter, NamesOnce]
  simp only [decide_eq_true_eq]
  constructor
  · intro h
    exact h.imp fun hne ha _ heq => hne ha heq.symm
  · intro h
    refine h.imp fun hne ha heq => ?_
    exact hne ha (heq ▸ ha) heq.symm

/-- The members that are found do not depend on the order, nor on unknown members. -/
theorem lookup_eq_of_perm {names : List String} {ms ms' : List (String × ι)}
    (h : NamesOnce names ms) (h' : NamesOnce names ms')
    (hperm : (knownMembers names ms).Perm (knownMembers names ms')) {name : String}
    (hname : name ∈ names) : Table.lookup name ms = Table.lookup name ms' := by
  have hmem : ∀ x, (name, x) ∈ ms ↔ (name, x) ∈ ms' := by
    intro x
    have hiff := hperm.mem_iff (a := (name, x))
    rwa [mem_knownMembers, mem_knownMembers, and_iff_left hname, and_iff_left hname] at hiff
  apply Option.ext
  intro x
  rw [h.lookup_eq_some_iff hname, h'.lookup_eq_some_iff hname, hmem x]

namespace Outline

/-- Whether two objects have the same members of the given names, in any order, and JSON in their
other members. -/
inductive Reordered (names : List String) : Outline → Outline → Prop
  | mk {ms ms' : List (String × Outline)}
      (perm : (knownMembers names ms).Perm (knownMembers names ms'))
      (whole : ∀ m ∈ ms, m.1 ∉ names → m.2.isWhole = true)
      (whole' : ∀ m ∈ ms', m.1 ∉ names → m.2.isWhole = true) :
    Reordered names (.object (named ms)) (.object (named ms'))

/-- Whether an object has two members of one of the given names. -/
inductive Repeats (names : List String) : Outline → Prop
  | mk {name : String} {x y : Outline} {before between after : List (Outline × Outline)}
      (known : name ∈ names) :
    Repeats names (.object (before ++ (.string (some name), x) :: (between
      ++ (.string (some name), y) :: after)))

variable {names : List String} {o o' : Outline}

theorem Reordered.symm (h : o.Reordered names o') : o'.Reordered names o := by
  obtain ⟨hperm, hwhole, hwhole'⟩ := h
  exact .mk hperm.symm hwhole' hwhole

theorem Reordered.exists_gives (h : o.Reordered names o') {ms : List (String × Outline)}
    (hgives : o.Gives names ms) : ∃ ms', o'.Gives names ms' ∧
      ∀ name ∈ names, Table.lookup name ms = Table.lookup name ms' := by
  obtain @⟨ms₁, ms₂, hperm, hwhole, hwhole'⟩ := h
  obtain ⟨rfl, honce, -⟩ := gives_named_iff.1 hgives
  have honce' : NamesOnce names ms₂ := by
    rw [namesOnce_iff_nodup] at honce ⊢
    exact (hperm.map _).nodup_iff.1 honce
  refine ⟨ms₂, gives_named_iff.2 ⟨rfl, honce', hwhole'⟩, fun name hname => ?_⟩
  exact lookup_eq_of_perm honce honce' hperm hname

theorem Repeats.not_gives (h : o.Repeats names) (ms : List (String × Outline)) :
    ¬o.Gives names ms := by
  intro hgives
  obtain @⟨name, x, y, before, between, after, hknown⟩ := h
  generalize hos : before ++ (Outline.string (some name), x) :: (between
    ++ (Outline.string (some name), y) :: after) = os at hgives
  cases hgives with
  | object honce =>
    rw [NamesOnce] at honce
    have hpairs : (named ms).Pairwise fun a b =>
        ∀ name ∈ names, a.1 = string (some name) → b.1 ≠ string (some name) := by
      refine List.pairwise_map.2 (honce.imp fun {a b} hne name hname ha hb => ?_)
      simp only [Outline.string.injEq, Option.some.injEq] at ha hb
      exact hne (ha ▸ hname) (hb.trans ha.symm)
    rw [← hos] at hpairs
    have hlast := (List.pairwise_cons.1 (List.pairwise_append.1 hpairs).2.1).1
    exact hlast (string (some name), y) (by simp) name hknown rfl rfl

end Outline

namespace Layout

variable {l : Layout ρ α} {read : Field ρ → ρ → ι → Option ρ}

theorem record?_congr {ms ms' : List (String × ι)}
    (h : ∀ name ∈ l.names, Table.lookup name ms = Table.lookup name ms') :
    l.record? read ms = l.record? read ms' := by
  rw [record?, record?]
  congr 1
  refine foldlM_congr (fun f hf r => ?_) l.blank
  rw [Field.receive?, Field.receive?, h f.name (name_mem_names hf)]

/-- A record does not depend on the order of its members, nor on unknown members. -/
theorem ofOutline_of_reordered (hl : l.IsLawful) {o o' : Outline} (h : o.Reordered l.names o')
    {a : α} (ha : l.format.ofOutline o = .ok a) : l.format.ofOutline o' = .ok a := by
  obtain ⟨ms, hgives, hrecord⟩ := (ofOutline_eq_ok_iff hl).1 ha
  obtain ⟨ms', hgives', hlookup⟩ := h.exists_gives hgives
  apply (ofOutline_eq_ok_iff hl).2
  exact ⟨ms', hgives', record?_congr hlookup ▸ hrecord⟩

end Layout

end EscrowLedger.Json
