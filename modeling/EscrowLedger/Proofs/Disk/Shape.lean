import EscrowLedger.Proofs.Disk.Files
import EscrowLedger.Proofs.Results

/-!
# What files hold does not matter

Where a path leads, and whether a file can be written, renamed or removed, rests on where files and
directories stand, and not on what the files hold. So operations on two disks that differ in this at
most succeed on both or fail on both, for one reason, and leave disks that again differ in it at
most.

## Main definitions

* `Disk.SameKind`, `Disk.SameShape` — the same files and directories, whatever the files hold.

## Main statements

* `Disk.SameShape.locate`, `Disk.SameShape.visit` — paths on two such disks.
* `Disk.SameShape.write`, `Disk.SameShape.rename`, `Disk.SameShape.discard` — operations on files.
-/

namespace EscrowLedger.Disk

/-- Whether nothing, a directory or a file stands at two places. -/
inductive SameKind : Option Node → Option Node → Prop
  | nothing : SameKind none none
  | directory : SameKind (some .directory) (some .directory)
  | file (content content' : ByteArray) : SameKind (some (.file content)) (some (.file content'))

/-- Whether two disks differ in what their files hold, at most. -/
def SameShape (d d' : Disk) : Prop := ∀ place, SameKind (d.node? place) (d'.node? place)

theorem SameKind.refl (n : Option Node) : SameKind n n := by
  cases n with
  | none => exact .nothing
  | some n =>
    cases n with
    | directory => exact .directory
    | file content => exact .file content content

theorem SameShape.refl (d : Disk) : d.SameShape d := fun place => .refl (d.node? place)

variable {d d' : Disk}

theorem SameKind.isDirectory_iff {n n' : Option Node} (h : SameKind n n') :
    n = some .directory ↔ n' = some .directory := by
  cases h with
  | nothing => exact Iff.rfl
  | directory => exact Iff.rfl
  | file content content' => simp

theorem SameShape.insert (h : d.SameShape d') (place : Location) (content content' : ByteArray) :
    SameShape ⟨d.nodes.insert place (.file content)⟩ ⟨d'.nodes.insert place (.file content')⟩ := by
  intro q
  rw [node?_insert, node?_insert]
  split
  · exact .directory
  · split
    · exact .file content content'
    · exact h q

theorem SameShape.erase (h : d.SameShape d') (place : Location) :
    SameShape ⟨d.nodes.erase place⟩ ⟨d'.nodes.erase place⟩ := by
  intro q
  rw [node?_erase, node?_erase]
  split
  · exact .directory
  · split
    · exact .nothing
    · exact h q

-- ════════════════════════════════════════════════════════════════════════
-- Paths
-- ════════════════════════════════════════════════════════════════════════

theorem SameShape.follow (h : d.SameShape d') (place : Location) (names : List String) :
    d.follow place names = d'.follow place names := by
  induction names generalizing place with
  | nil => rfl
  | cons name names ih =>
    have hkind := h place
    rw [Disk.follow, Disk.follow]
    generalize d.node? place = n at hkind ⊢
    generalize d'.node? place = n' at hkind ⊢
    cases hkind with
    | nothing => rfl
    | directory => exact ih _
    | file content content' => rfl

theorem SameShape.locate (h : d.SameShape d') (p : Path) : d.locate p = d'.locate p := by
  rw [Disk.locate, Disk.locate, h.follow]

/-- Whether two visits end at one place, where things of one kind stand. -/
def SameFind (v v' : Location × Node) : Prop := v.1 = v'.1 ∧ SameKind (some v.2) (some v'.2)

theorem SameShape.visit (h : d.SameShape d') (p : Path) :
    Except.Alike SameFind (d.visit p) (d'.visit p) := by
  rw [Disk.visit, Disk.visit, h.locate p]
  cases d'.locate p with
  | error e => exact .error e
  | ok place =>
    have hkind := h place
    simp only [bind, Except.bind]
    generalize d.node? place = n at hkind ⊢
    generalize d'.node? place = n' at hkind ⊢
    cases hkind with
    | nothing => exact .error _
    | directory => exact .ok ⟨rfl, .directory⟩
    | file content content' =>
      simp only
      split
      · exact .error _
      · exact .ok ⟨rfl, .file content content'⟩

-- ════════════════════════════════════════════════════════════════════════
-- Operations on files
-- ════════════════════════════════════════════════════════════════════════

theorem SameShape.write (h : d.SameShape d') (p : Path) (content content' : ByteArray) :
    Except.Alike SameShape (d.write p content) (d'.write p content') := by
  rw [Disk.write, Disk.write, h.locate p]
  cases d'.locate p with
  | error e => exact .error e
  | ok place =>
    simp only [bind, Except.bind, (h place).isDirectory_iff]
    split
    · exact .error _
    · split
      · exact .error _
      · exact .ok (h.insert place content content')

theorem SameShape.rename (h : d.SameShape d') (p q : Path) :
    Except.Alike SameShape (d.rename p q) (d'.rename p q) := by
  rw [Disk.rename, Disk.rename, h.locate p, h.locate q]
  cases d'.locate p with
  | error e => exact .error e
  | ok old =>
    cases d'.locate q with
    | error e => exact .error e
    | ok new =>
      have hkind := h old
      simp only [bind, Except.bind, (h new).isDirectory_iff]
      generalize d.node? old = n at hkind ⊢
      generalize d'.node? old = n' at hkind ⊢
      cases hkind with
      | nothing => exact .error _
      | directory => exact .error _
      | file content content' =>
        simp only
        split
        · exact .error _
        · split
          · exact .error _
          · split
            · exact .error _
            · exact .ok ((h.erase old).insert new content content')

theorem SameShape.discard (h : d.SameShape d') (p : Path) :
    (d.discard p).SameShape (d'.discard p) := by
  have hvisit := h.visit p
  simp only [Disk.discard, Disk.remove]
  generalize d.visit p = v at hvisit ⊢
  generalize d'.visit p = v' at hvisit ⊢
  cases hvisit with
  | error e => exact h
  | @ok v v' hfind =>
    obtain ⟨place, n⟩ := v
    obtain ⟨place', n'⟩ := v'
    obtain ⟨rfl, hkind⟩ := hfind
    cases hkind with
    | directory => exact h
    | file content content' => exact h.erase place

end EscrowLedger.Disk
