import EscrowLedger.Disk.Host
import EscrowLedger.Ledger.Basic
import EscrowLedger.Ledger.Document

/-!
# Ledgers on disk

A ledger that is kept in one file. Every operation reads the whole document, and every write
replaces it: the new document goes to a temporary file beside the old one, which then takes its
name. If that fails the temporary file is removed, and it does not matter whether this succeeds.

Every operation is told the host that it makes its calls to. Where no host is named the calls fail for
no other reason than what stands on the disk.

## Main definitions

* `FileLedger` — the disk and the path of the document, with its `Ledger` operations.
* `FileLedger.documentOn`, `FileLedger.storeOn` — reading and replacing the document on a host.
* `FileLedger.On` — ledgers on the disk of a host, with their `Ledger` operations.
* `FileLedger.document`, `FileLedger.store` — reading and replacing the document on the calm host.

## Main statements

* `FileLedger.document_eq`, `FileLedger.store_eq` — the same in the operations of the disk alone.
-/

namespace EscrowLedger

/-- A ledger that is kept in a file. -/
structure FileLedger where
  path : Path
  disk : Disk
deriving DecidableEq

namespace FileLedger

/-- Where the new document is written before it takes the name of the old one. -/
def temporary (l : FileLedger) : Path := l.path.withExtension "tmp"

-- ════════════════════════════════════════════════════════════════════════
-- On the disk of a host
-- ════════════════════════════════════════════════════════════════════════

section Host

variable (h : Host) (l : FileLedger)

/-- The document; where nothing is seen at the path it counts as an empty one. -/
def documentOn : Except LedgerError Document :=
  if h.contains l.disk l.path then do
    let text ← (h.readText l.disk l.path).mapError .disk
    (Document.ofText text).mapError .document
  else .ok ∅

def storeOn (d : Document) : Except LedgerError Unit × FileLedger :=
  match h.write l.disk l.temporary d.toText.toUTF8 with
  | (.error e, written) => (.error (.disk e), { l with disk := h.discard written l.temporary })
  | (.ok (), written) =>
    match h.rename written l.temporary l.path with
    | .error e => (.error (.disk e), { l with disk := h.discard written l.temporary })
    | .ok renamed => (.ok (), { l with disk := renamed })

def getOn (id : JobId) : Except LedgerError (Option Record) :=
  (l.documentOn h).map (·.get? id.toText)

def insertOn (id : JobId) (record : Record) : Except LedgerError Unit × FileLedger :=
  match l.documentOn h with
  | .error e => (.error e, l)
  | .ok d =>
    if d.contains id.toText then (.error (.alreadyExists id), l)
    else l.storeOn h (d.insert id.toText record)

/-- Replaces the record under an id if it is the expected one. -/
def replaceOn (id : JobId) (expected record : Record) : Except LedgerError Unit × FileLedger :=
  match l.documentOn h with
  | .error e => (.error e, l)
  | .ok d =>
    match d.get? id.toText with
    | none => (.error (.notFound id), l)
    | some current =>
      match Record.ensureUnchanged id expected current with
      | .error e => (.error e, l)
      | .ok () => l.storeOn h (d.insert id.toText record)

end Host

/-- A ledger on the disk of a host. -/
def On (_ : Host) : Type := FileLedger

instance (h : Host) : Ledger (On h) where
  get := getOn h
  insert := insertOn h
  replace := replaceOn h

-- ════════════════════════════════════════════════════════════════════════
-- On the calm host
-- ════════════════════════════════════════════════════════════════════════

def document : FileLedger → Except LedgerError Document := documentOn .calm

def store : FileLedger → Document → Except LedgerError Unit × FileLedger := storeOn .calm

instance : Ledger FileLedger where
  get := getOn .calm
  insert := insertOn .calm
  replace := replaceOn .calm

section Calm

variable (l : FileLedger)

theorem document_eq : l.document = if l.disk.contains l.path then do
      let text ← (l.disk.readText l.path).mapError .disk
      (Document.ofText text).mapError .document
    else .ok ∅ := by
  rw [document, documentOn, Host.contains_calm, Host.readText_calm]

theorem store_eq (d : Document) : l.store d
    = match l.disk.write l.temporary d.toText.toUTF8 with
      | .error e => (.error (.disk e), { l with disk := l.disk.discard l.temporary })
      | .ok written =>
        match written.rename l.temporary l.path with
        | .error e => (.error (.disk e), { l with disk := written.discard l.temporary })
        | .ok renamed => (.ok (), { l with disk := renamed }) := by
  rw [store, storeOn, Host.write_calm]
  cases l.disk.write l.temporary d.toText.toUTF8 <;> rfl

theorem get_eq (id : JobId) : Ledger.get l id = l.document.map (·.get? id.toText) := rfl

theorem insert_eq (id : JobId) (record : Record) : Ledger.insert l id record
    = match l.document with
      | .error e => (.error e, l)
      | .ok d =>
        if d.contains id.toText then (.error (.alreadyExists id), l)
        else l.store (d.insert id.toText record) := rfl

theorem replace_eq (id : JobId) (expected record : Record) : Ledger.replace l id expected record
    = match l.document with
      | .error e => (.error e, l)
      | .ok d =>
        match d.get? id.toText with
        | none => (.error (.notFound id), l)
        | some current =>
          match Record.ensureUnchanged id expected current with
          | .error e => (.error e, l)
          | .ok () => l.store (d.insert id.toText record) := rfl

end Calm

end FileLedger

end EscrowLedger
