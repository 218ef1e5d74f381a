import EscrowLedger.Proofs.Disk.Files

/-!
# When a file cannot be replaced

A file is replaced by writing another one beside it, which then takes its name; if one of the two
steps fails, the other file is removed. Nothing new is left behind then. A file that stands at the
end of the path already can always take the new content once that is written, so where the second
step fails there was nothing to replace.

No file system has names over the greatest length, so no operation makes one.

## Main definitions

* `Disk.HasShortNames` — no name is over the greatest length.
* `Disk.SameEnd` — two paths to one place.
* `Disk.KeepsBut` — what stood at a place is as it was, or was a file at the end of a given path and
  is gone.

## Main statements

* `Disk.HasShortNames.write`, `Disk.HasShortNames.rename`, `Disk.HasShortNames.discard` — operations
  keep it so.
* `Disk.visit_eq_ok_iff` — what stands at the end of a path.
* `Disk.discard_of_write_eq_error` — nothing is removed if nothing was written.
* `Disk.discard_write`, `Disk.node?_discard_write` — a file that was written and removed again leaves
  its place empty, and everything else as it was.
* `Disk.keepsBut_discard`, `Disk.keepsBut_discard_write` — nothing else is removed with it.
* `Disk.contains_eq_false` — a path at the end of which nothing stands stays so if nothing appears.
-/

namespace EscrowLedger.Disk

-- ════════════════════════════════════════════════════════════════════════
-- Names
-- ════════════════════════════════════════════════════════════════════════

/-- Whether no file or directory has a name over the greatest length. -/
def HasShortNames (d : Disk) : Prop := ∀ e ∈ d.nodes.entries, isOverlong e.1 = false

theorem hasShortNames_empty : HasShortNames .empty := fun _ h => absurd h List.not_mem_nil

theorem HasShortNames.insert {d : Disk} (h : d.HasShortNames) {place : Location}
    (hp : isOverlong place = false) (n : Node) : HasShortNames ⟨d.nodes.insert place n⟩ := by
  intro e he
  rcases Table.mem_insertEntry he with rfl | he
  · exact hp
  · exact h e he

theorem HasShortNames.erase {d : Disk} (h : d.HasShortNames) (place : Location) :
    HasShortNames ⟨d.nodes.erase place⟩ :=
  fun e he => h e (List.mem_filter.1 he).1

theorem HasShortNames.write {d d' : Disk} (h : d.HasShortNames) {p : Path} {content : ByteArray}
    (hw : d.write p content = .ok d') : d'.HasShortNames := by
  obtain ⟨place, -, -, -, hshort, rfl⟩ := write_eq_ok_iff.1 hw
  exact h.insert hshort _

theorem HasShortNames.rename {d d' : Disk} (h : d.HasShortNames) {p q : Path}
    (hr : d.rename p q = .ok d') : d'.HasShortNames := by
  obtain ⟨old, new, content, -, -, -, hshort, -, -, -, rfl⟩ := rename_eq_ok_iff.1 hr
  exact (h.erase old).insert hshort _

theorem HasShortNames.not_isOverlong {d : Disk} (h : d.HasShortNames) {place : Location}
    {content : ByteArray} (hn : d.node? place = some (.file content)) :
    isOverlong place = false := by
  have hfix : isFixed place = false := not_isFixed_of_node?_ne (by rw [hn]; rintro ⟨⟩)
  rw [node?, hfix, if_neg Bool.false_ne_true] at hn
  exact h _ (Table.get?_eq_some_iff.1 hn)

-- ════════════════════════════════════════════════════════════════════════
-- What stands at the end of a path
-- ════════════════════════════════════════════════════════════════════════

/-- A path shows what stands at the place that it leads to, unless only a directory is meant and a
file stands there. -/
theorem visit_eq_ok_iff {d : Disk} {p : Path} {place : Location} {n : Node} :
    d.visit p = .ok (place, n) ↔ d.locate p = .ok place ∧ d.node? place = some n ∧
      (p.isDirectory = true → n = .directory) := by
  unfold visit
  cases d.locate p with
  | error e => simp [bind, Except.bind]
  | ok place' =>
    simp only [bind, Except.bind, Except.ok.injEq]
    constructor
    · intro h
      split at h
      · cases h
      · next hn =>
        cases h
        exact ⟨rfl, hn, fun _ => rfl⟩
      · next content hn =>
        split at h
        · cases h
        · next hdir =>
          cases h
          exact ⟨rfl, hn, fun hp => absurd hp hdir⟩
    · rintro ⟨rfl, hn, hdir⟩
      rw [hn]
      cases n with
      | directory => rfl
      | file content =>
        have hp : ¬p.isDirectory = true := by
          intro hp
          cases hdir hp
        simp only [if_neg hp]

theorem contains_eq_true_iff {d : Disk} {p : Path} :
    d.contains p = true ↔ ∃ place n, d.visit p = .ok (place, n) := by
  rw [contains]
  cases d.visit p with
  | error e => simp
  | ok v => exact ⟨fun _ => ⟨v.1, v.2, rfl⟩, fun _ => rfl⟩

/-- Whether two paths lead to one place, and both or neither to a directory only. -/
def SameEnd (d : Disk) (p q : Path) : Prop :=
  d.locate p = d.locate q ∧ p.isDirectory = q.isDirectory

/-- Where nothing stands at the end of a path, nothing does after a change that makes nothing
appear. -/
theorem contains_eq_false {d d' : Disk} {p : Path} (hsame : d.SameDirectories d')
    (hold : ∀ place n, d'.node? place = some n → d.node? place = some n)
    (h : d.contains p = false) : d'.contains p = false := by
  rw [← Bool.not_eq_true, contains_eq_true_iff]
  rintro ⟨place, n, hvisit⟩
  obtain ⟨hlocate, hn, hdir⟩ := visit_eq_ok_iff.1 hvisit
  have hfound : d.contains p = true := contains_eq_true_iff.2
    ⟨place, n, visit_eq_ok_iff.2 ⟨hsame.symm.locate hlocate, hold place n hn, hdir⟩⟩
  rw [h] at hfound
  cases hfound

/-- Where a file stands, another one can be written. -/
theorem takesFile_of_visit {d : Disk} (hd : d.HasShortNames) {p : Path} {place : Location}
    {content : ByteArray} (h : d.visit p = .ok (place, .file content)) : d.TakesFile p := by
  obtain ⟨hlocate, hn, hdir⟩ := visit_eq_ok_iff.1 h
  refine ⟨place, hlocate, ?_, ?_, hd.not_isOverlong hn⟩
  · rw [← Bool.not_eq_true]
    intro hp
    cases hdir hp
  · rw [hn]
    rintro ⟨⟩

-- ════════════════════════════════════════════════════════════════════════
-- Removing what was written
-- ════════════════════════════════════════════════════════════════════════

theorem discard_cases (d : Disk) (p : Path) :
    d.discard p = d ∨ ∃ place content, d.visit p = .ok (place, .file content) ∧
      d.discard p = ⟨d.nodes.erase place⟩ := by
  unfold discard remove
  cases hvisit : d.visit p with
  | error e => exact Or.inl rfl
  | ok v =>
    obtain ⟨place, n⟩ := v
    cases n with
    | directory => exact Or.inl rfl
    | file content => exact Or.inr ⟨place, content, rfl, rfl⟩

theorem HasShortNames.discard {d : Disk} (h : d.HasShortNames) (p : Path) :
    (d.discard p).HasShortNames := by
  rcases discard_cases d p with heq | ⟨place, content, -, heq⟩
  · rw [heq]
    exact h
  · rw [heq]
    exact h.erase place

/-- Where nothing can be written, there is no file that could be removed. -/
theorem discard_of_write_eq_error {d : Disk} (hd : d.HasShortNames) {p : Path} {content : ByteArray}
    {e : DiskError} (h : d.write p content = .error e) : d.discard p = d := by
  rcases discard_cases d p with heq | ⟨place, content', hvisit, -⟩
  · exact heq
  · obtain ⟨place', hlocate, hdir, hn, hshort⟩ := takesFile_of_visit hd hvisit
    have hw : d.write p content = .ok _ :=
      write_eq_ok_iff.2 ⟨place', hlocate, hdir, hn, hshort, rfl⟩
    rw [h] at hw
    cases hw

/-- A file that was written and removed again leaves its place empty. -/
theorem discard_write {d written : Disk} {p : Path} {content : ByteArray}
    (hw : d.write p content = .ok written) :
    ∃ place, d.TakesFileAt p place ∧ written.discard p = ⟨d.nodes.erase place⟩ := by
  obtain ⟨place, hlocate, hdir, hn, hshort, rfl⟩ := write_eq_ok_iff.1 hw
  have hfix := not_isFixed_of_node?_ne hn
  have hwritten : (Disk.mk (d.nodes.insert place (.file content))).visit p
      = .ok (place, .file content) := by
    refine visit_eq_ok_iff.2 ⟨(sameDirectories_insert content hn).locate hlocate, ?_, ?_⟩
    · rw [node?_insert, hfix, if_neg Bool.false_ne_true, if_pos rfl]
    · intro hp
      rw [hdir] at hp
      cases hp
  refine ⟨place, ⟨hlocate, hdir, hn, hshort⟩, ?_⟩
  simp only [discard, remove, hwritten, bind, Except.bind, Table.erase_insert]

/-- Everything else is as it was. -/
theorem node?_discard_write {d written : Disk} {p : Path} {content : ByteArray}
    (hw : d.write p content = .ok written) : ∃ place, d.locate p = .ok place ∧
      d.node? place ≠ some .directory ∧ ∀ q, (written.discard p).node? q
        = if q = place then none else d.node? q := by
  obtain ⟨place, hplace, hdiscard⟩ := discard_write hw
  have hfix := not_isFixed_of_node?_ne hplace.free
  refine ⟨place, hplace.locate, hplace.free, fun q => ?_⟩
  rw [hdiscard, node?_erase]
  by_cases hq : isFixed q = true
  · have hne : q ≠ place := by
      rintro rfl
      rw [hfix] at hq
      cases hq
    rw [if_pos hq, if_neg hne, node?, if_pos hq]
  · rw [if_neg hq]

/-- Whether what stood at a place is as it was, or was a file at the end of a path and is gone. -/
def KeepsBut (d d' : Disk) (t : Path) (place : Location) : Prop :=
  d'.node? place = d.node? place ∨ d.locate t = .ok place ∧ d'.node? place = none ∧
    ∃ content, d.node? place = some (.file content)

section Keeping

variable {d d' : Disk} {t : Path} {place : Location}

theorem KeepsBut.refl (d : Disk) (t : Path) (place : Location) : d.KeepsBut d t place := Or.inl rfl

/-- Where a path does not lead, what stood there is as it was. -/
theorem KeepsBut.node?_eq (h : d.KeepsBut d' t place) (ht : d.locate t ≠ .ok place) :
    d'.node? place = d.node? place := by
  rcases h with heq | ⟨hplace, -⟩
  · exact heq
  · exact absurd hplace ht

/-- What is there now was there before. -/
theorem KeepsBut.old (h : d.KeepsBut d' t place) {n : Node} (hn : d'.node? place = some n) :
    d.node? place = some n := by
  rcases h with heq | ⟨-, hgone, -⟩
  · rw [← heq, hn]
  · rw [hgone] at hn
    cases hn

/-- What was there is there still, or it was a file at the end of the path. -/
theorem KeepsBut.kept (h : d.KeepsBut d' t place) {n : Node} (hn : d.node? place = some n) :
    d'.node? place = some n ∨ d.locate t = .ok place ∧ ∃ content, n = .file content := by
  rcases h with heq | ⟨hplace, -, content, hfile⟩
  · exact Or.inl (heq.trans hn)
  · rw [hfile] at hn
    exact Or.inr ⟨hplace, content, (Option.some.inj hn).symm⟩

/-- Only files are gone, so the directories are the same. -/
theorem sameDirectories_of_keepsBut (h : ∀ place, d.KeepsBut d' t place) : d.SameDirectories d' := by
  intro place
  rcases h place with heq | ⟨-, hgone, content, hfile⟩
  · rw [heq]
  · rw [hgone, hfile]
    constructor <;> rintro ⟨⟩

theorem keepsBut_discard (d : Disk) (t : Path) (place : Location) :
    d.KeepsBut (d.discard t) t place := by
  rcases discard_cases d t with heq | ⟨temp, content, hvisit, heq⟩
  · rw [heq]
    exact .refl d t place
  · obtain ⟨hlocate, hfile, -⟩ := visit_eq_ok_iff.1 hvisit
    have hfix : isFixed temp = false := not_isFixed_of_node?_ne (by rw [hfile]; rintro ⟨⟩)
    rw [heq]
    by_cases hplace : place = temp
    · subst hplace
      refine Or.inr ⟨hlocate, ?_, content, hfile⟩
      rw [node?_erase, hfix, if_neg Bool.false_ne_true, if_pos rfl]
    · left
      rw [node?_erase, if_neg hplace]
      split
      · next hfixed => rw [node?, if_pos hfixed]
      · rfl

theorem keepsBut_discard_write {written : Disk} {content : ByteArray}
    (hw : d.write t content = .ok written) (place : Location) :
    d.KeepsBut (written.discard t) t place := by
  obtain ⟨temp, hlocate, hfree, hnode⟩ := node?_discard_write hw
  by_cases hplace : place = temp
  · subst hplace
    have hgone : (written.discard t).node? place = none := by rw [hnode, if_pos rfl]
    cases hold : d.node? place with
    | none => exact Or.inl (hgone.trans hold.symm)
    | some n =>
      cases n with
      | directory => exact absurd hold hfree
      | file old => exact Or.inr ⟨hlocate, hgone, old, hold⟩
  · left
    rw [hnode, if_neg hplace]

end Keeping

end EscrowLedger.Disk
