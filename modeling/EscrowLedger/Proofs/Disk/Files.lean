import EscrowLedger.Disk.Basic

/-!
# Files come and go, directories stay

Where a path leads is decided by directories alone, and the operations on files neither make nor
remove any. So a path that leads somewhere keeps leading there while files are written, renamed and
removed, and what was written to a place is read from it.

## Main definitions

* `Disk.SameDirectories` — two disks with the same directories.
* `Disk.TakesFile`, `Disk.TakesFileAt` — a file can be written at the end of a path, and where that
  is.

## Main statements

* `Disk.SameDirectories.locate` — paths lead to the same places on such disks.
* `Disk.write_eq_ok_iff`, `Disk.rename_eq_ok_iff` — when writing and renaming succeed, and what they
  do.
* `Disk.readText_of_node?` — a text that stands at the end of a path is read.
* `Disk.rename_write`, `Disk.exists_rename_write`, `Disk.TakesFileAt.rename_write` — a file that is
  written beside another one and takes its name.
-/

namespace EscrowLedger.Disk

-- ════════════════════════════════════════════════════════════════════════
-- What stands at a place after a change
-- ════════════════════════════════════════════════════════════════════════

theorem node?_insert (nodes : Table Location Node) (place q : Location) (n : Node) :
    (Disk.mk (nodes.insert place n)).node? q
      = if isFixed q then some .directory else if q = place then some n
        else (Disk.mk nodes).node? q := by
  by_cases hq : isFixed q = true
  · simp [node?, hq]
  · by_cases h : q = place <;> simp [node?, hq, h, Table.get?_insert]

theorem node?_erase (nodes : Table Location Node) (place q : Location) :
    (Disk.mk (nodes.erase place)).node? q
      = if isFixed q then some .directory else if q = place then none
        else (Disk.mk nodes).node? q := by
  by_cases hq : isFixed q = true
  · simp [node?, hq]
  · by_cases h : q = place <;> simp [node?, hq, h, Table.get?_erase]

/-- A place where no directory stands is none of those that are always there. -/
theorem not_isFixed_of_node?_ne {d : Disk} {place : Location}
    (h : d.node? place ≠ some .directory) : isFixed place = false := by
  rw [← Bool.not_eq_true]
  intro hfix
  exact h (by rw [node?, if_pos hfix])

-- ════════════════════════════════════════════════════════════════════════
-- Disks with the same directories
-- ════════════════════════════════════════════════════════════════════════

/-- Whether two disks have the same directories. -/
def SameDirectories (d d' : Disk) : Prop :=
  ∀ place, d'.node? place = some .directory ↔ d.node? place = some .directory

theorem SameDirectories.trans {d₁ d₂ d₃ : Disk} (h₁ : SameDirectories d₁ d₂)
    (h₂ : SameDirectories d₂ d₃) : SameDirectories d₁ d₃ :=
  fun place => (h₂ place).trans (h₁ place)

theorem SameDirectories.refl (d : Disk) : SameDirectories d d := fun _ => Iff.rfl

theorem SameDirectories.symm {d d' : Disk} (h : SameDirectories d d') : SameDirectories d' d :=
  fun place => (h place).symm

theorem SameDirectories.follow {d d' : Disk} (h : SameDirectories d d') {place q : Location}
    {names : List String} (hf : d.follow place names = .ok q) : d'.follow place names = .ok q := by
  induction names generalizing place with
  | nil => exact hf
  | cons name names ih =>
    rw [Disk.follow] at hf ⊢
    split at hf
    · next hnode =>
      rw [(h place).2 hnode]
      exact ih hf
    · cases hf
    · cases hf

/-- A path that leads to a place leads there on every disk with the same directories. -/
theorem SameDirectories.locate {d d' : Disk} (h : SameDirectories d d') {p : Path} {q : Location}
    (hl : d.locate p = .ok q) : d'.locate p = .ok q := by
  unfold Disk.locate at hl ⊢
  split at hl
  · cases hl
  split at hl
  · cases hl
  split at hl
  · cases hl
  next hnul hlong hempty =>
    rw [if_neg hnul, if_neg hlong, if_neg hempty]
    exact h.follow hl

theorem sameDirectories_insert {d : Disk} {place : Location} (content : ByteArray)
    (h : d.node? place ≠ some .directory) :
    SameDirectories d ⟨d.nodes.insert place (.file content)⟩ := by
  intro q
  rw [node?_insert]
  by_cases hq : isFixed q = true
  · simp [hq, node?]
  · by_cases he : q = place
    · subst he
      simp [hq, h]
    · simp [hq, he]

/-- Removing what is no directory changes no directory. -/
theorem sameDirectories_erase {d : Disk} {place : Location}
    (h : d.node? place ≠ some .directory) : SameDirectories d ⟨d.nodes.erase place⟩ := by
  intro q
  rw [node?_erase]
  by_cases hq : isFixed q = true
  · simp [hq, node?]
  · by_cases he : q = place
    · subst he
      simp [hq, h]
    · simp [hq, he]

-- ════════════════════════════════════════════════════════════════════════
-- Operations that succeed
-- ════════════════════════════════════════════════════════════════════════

/-- A file is written at the place that its path leads to, unless a directory stands there, a
directory is meant, or its name is too long. -/
theorem write_eq_ok_iff {d d' : Disk} {p : Path} {content : ByteArray} :
    d.write p content = .ok d' ↔ ∃ place, d.locate p = .ok place ∧ p.isDirectory = false ∧
      d.node? place ≠ some .directory ∧ isOverlong place = false ∧
      d' = ⟨d.nodes.insert place (.file content)⟩ := by
  unfold Disk.write
  cases d.locate p with
  | error e => simp [bind, Except.bind]
  | ok place =>
    by_cases hdir : p.isDirectory = true <;>
      by_cases hnode : d.node? place = some .directory <;>
      by_cases hlong : isOverlong place = true <;>
      simp [bind, Except.bind, hdir, hnode, hlong, @eq_comm _ d']

/-- A file that stands at the end of one path is moved to the end of another. -/
theorem rename_eq_ok_iff {d d' : Disk} {p q : Path} :
    d.rename p q = .ok d' ↔ ∃ old new content, d.locate p = .ok old ∧ d.locate q = .ok new ∧
      d.node? old = some (.file content) ∧ isOverlong new = false ∧ p.isDirectory = false ∧
      q.isDirectory = false ∧ d.node? new ≠ some .directory ∧
      d' = ⟨(d.nodes.erase old).insert new (.file content)⟩ := by
  unfold Disk.rename
  cases d.locate p with
  | error e => simp [bind, Except.bind]
  | ok old =>
    cases d.locate q with
    | error e => simp [bind, Except.bind]
    | ok new =>
      cases hold : d.node? old with
      | none => simp [bind, Except.bind, hold]
      | some n =>
        cases n with
        | directory => simp [bind, Except.bind, hold]
        | file content =>
          by_cases hlong : isOverlong new = true <;> by_cases hp : p.isDirectory = true <;>
            by_cases hq : q.isDirectory = true <;>
            by_cases hnew : d.node? new = some .directory <;>
            simp [bind, Except.bind, hold, hlong, hp, hq, hnew,
              @eq_comm _ d']

theorem fromUTF8?_toUTF8 (s : String) : String.fromUTF8? s.toUTF8 = some s :=
  dif_pos s.isValidUTF8

section Reading

variable {d : Disk} {p : Path} {place : Location} {s : String}

theorem contains_of_node? (hl : d.locate p = .ok place) (hp : p.isDirectory = false)
    (hn : d.node? place = some (.file s.toUTF8)) : d.contains p = true := by
  simp [contains, visit, hl, hn, hp, bind, Except.bind]

theorem readText_of_node? (hl : d.locate p = .ok place) (hp : p.isDirectory = false)
    (hn : d.node? place = some (.file s.toUTF8)) : d.readText p = .ok s := by
  have hread : d.read p = .ok s.toUTF8 := by
    simp [read, visit, hl, hn, hp, bind, Except.bind]
  simp only [readText, hread, bind, Except.bind, fromUTF8?_toUTF8]

end Reading

-- ════════════════════════════════════════════════════════════════════════
-- Replacing a file
-- ════════════════════════════════════════════════════════════════════════

/-- A file that was written at one path and renamed to another stands at the other one, and no
directory has changed. -/
theorem rename_write {d written renamed : Disk} {t p : Path} {content : ByteArray}
    (hw : d.write t content = .ok written) (hr : written.rename t p = .ok renamed) :
    ∃ place, renamed.locate p = .ok place ∧ p.isDirectory = false ∧
      renamed.node? place = some (.file content) ∧ d.SameDirectories renamed := by
  obtain ⟨temp, htemp, -, hnode, -, rfl⟩ := write_eq_ok_iff.1 hw
  obtain ⟨old, new, content', hold, hnew, hfile, -, -, hdir, hfree, rfl⟩ := rename_eq_ok_iff.1 hr
  have hwritten := sameDirectories_insert content hnode
  have hplace : temp = old := Except.ok.inj ((hwritten.locate htemp).symm.trans hold)
  subst hplace
  have hfix := not_isFixed_of_node?_ne hnode
  have hcontent : content = content' := by
    simpa [node?_insert, hfix] using hfile
  subst hcontent
  -- The renaming takes the file away from its old place before it enters it at the new one.
  have hfile' : (Disk.mk (d.nodes.insert temp (.file content))).node? temp ≠ some .directory := by
    rw [hfile]
    rintro ⟨⟩
  have herased := sameDirectories_erase hfile'
  have hfree' : (Disk.mk ((d.nodes.insert temp (.file content)).erase temp)).node? new
      ≠ some .directory :=
    fun h => hfree ((herased new).1 h)
  have hall := (hwritten.trans herased).trans (sameDirectories_insert content hfree')
  refine ⟨new, ?_, hdir, ?_, hall⟩
  · exact (herased.trans (sameDirectories_insert content hfree')).locate hnew
  · have hnewfix := not_isFixed_of_node?_ne hfree
    simp [node?_insert, hnewfix]

/-- Whether a file can be written at the end of a path. -/
def TakesFile (d : Disk) (p : Path) : Prop :=
  ∃ place, d.locate p = .ok place ∧ p.isDirectory = false ∧ d.node? place ≠ some .directory ∧
    isOverlong place = false

/-- Whether a path leads to a place where a file can be written. -/
structure TakesFileAt (d : Disk) (p : Path) (place : Location) : Prop where
  locate : d.locate p = .ok place
  isDirectory : p.isDirectory = false
  free : d.node? place ≠ some .directory
  short : isOverlong place = false

theorem takesFile_iff {d : Disk} {p : Path} : d.TakesFile p ↔ ∃ place, d.TakesFileAt p place := by
  constructor
  · rintro ⟨place, hl, hdir, hnode, hlong⟩
    exact ⟨place, hl, hdir, hnode, hlong⟩
  · rintro ⟨place, h⟩
    exact ⟨place, h.locate, h.isDirectory, h.free, h.short⟩

theorem SameDirectories.takesFileAt {d d' : Disk} (h : SameDirectories d d') {p : Path}
    {place : Location} (hp : d.TakesFileAt p place) : d'.TakesFileAt p place :=
  ⟨h.locate hp.locate, hp.isDirectory, fun hn => hp.free ((h place).1 hn), hp.short⟩

theorem SameDirectories.takesFile {d d' : Disk} (h : SameDirectories d d') {p : Path}
    (hp : d.TakesFile p) : d'.TakesFile p := by
  obtain ⟨place, hplace⟩ := takesFile_iff.1 hp
  exact takesFile_iff.2 ⟨place, h.takesFileAt hplace⟩

section Replacing

variable {d : Disk} {t p : Path} {temp place : Location}

theorem TakesFileAt.write (h : d.TakesFileAt p place) (content : ByteArray) :
    d.write p content = .ok ⟨d.nodes.insert place (.file content)⟩ :=
  write_eq_ok_iff.2 ⟨place, h.locate, h.isDirectory, h.free, h.short, rfl⟩

/-- What replacing a file does. -/
theorem TakesFileAt.rename_write (ht : d.TakesFileAt t temp) (hp : d.TakesFileAt p place)
    (content : ByteArray) :
    Disk.rename ⟨d.nodes.insert temp (.file content)⟩ t p
      = .ok ⟨(d.nodes.erase temp).insert place (.file content)⟩ := by
  have hwritten := sameDirectories_insert content ht.free
  have ht' := hwritten.takesFileAt ht
  have hp' := hwritten.takesFileAt hp
  have hfix := not_isFixed_of_node?_ne ht.free
  rw [rename_eq_ok_iff]
  refine ⟨temp, place, content, ht'.locate, hp'.locate, ?_, hp'.short, ht'.isDirectory,
    hp'.isDirectory, hp'.free, ?_⟩
  · simp [node?_insert, hfix]
  · rw [Table.erase_insert]

theorem takesFileAt_of_rename_write {content : ByteArray} {written renamed : Disk}
    (hw : d.write t content = .ok written) (hr : written.rename t p = .ok renamed) :
    ∃ temp place, d.TakesFileAt t temp ∧ d.TakesFileAt p place := by
  obtain ⟨temp, htemp, hdir, hnode, hlong, rfl⟩ := write_eq_ok_iff.1 hw
  obtain ⟨-, place, -, -, hplace, -, hlong', -, hdir', hnode', -⟩ := rename_eq_ok_iff.1 hr
  have hwritten := sameDirectories_insert content hnode
  exact ⟨temp, place, ⟨htemp, hdir, hnode, hlong⟩,
    hwritten.symm.takesFileAt ⟨hplace, hdir', hnode', hlong'⟩⟩

end Replacing

/-- A file can be written at one path and renamed to another if both can take a file. -/
theorem exists_rename_write {d : Disk} {t p : Path} (content : ByteArray) (ht : d.TakesFile t)
    (hp : d.TakesFile p) :
    ∃ written renamed, d.write t content = .ok written ∧ written.rename t p = .ok renamed := by
  obtain ⟨temp, ht⟩ := takesFile_iff.1 ht
  obtain ⟨place, hp⟩ := takesFile_iff.1 hp
  exact ⟨_, _, ht.write content, ht.rename_write hp content⟩

end EscrowLedger.Disk
