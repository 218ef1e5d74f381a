import EscrowLedger.Ledger.Basic

/-!
# Ledgers in memory

A ledger that lasts as long as its process. None of its operations can fail for a reason outside the
ledger.

## Main definitions

* `MemoryLedger` — the records by id, with its `Ledger` operations.
-/

namespace EscrowLedger

/-- A ledger that is kept in memory. -/
structure MemoryLedger where
  records : Table JobId Record
deriving DecidableEq

namespace MemoryLedger

def empty : MemoryLedger := ⟨∅⟩

def size (l : MemoryLedger) : Nat := l.records.size

/-- Whether there are no jobs. -/
def isEmpty (l : MemoryLedger) : Bool := l.size = 0

def insert (l : MemoryLedger) (id : JobId) (record : Record) :
    Except LedgerError Unit × MemoryLedger :=
  if l.records.contains id then (.error (.alreadyExists id), l)
  else (.ok (), ⟨l.records.insert id record⟩)

/-- Replaces the record under an id if it is the expected one. -/
def replace (l : MemoryLedger) (id : JobId) (expected record : Record) :
    Except LedgerError Unit × MemoryLedger :=
  match l.records.get? id with
  | none => (.error (.notFound id), l)
  | some current =>
    match Record.ensureUnchanged id expected current with
    | .error e => (.error e, l)
    | .ok () => (.ok (), ⟨l.records.insert id record⟩)

instance : Ledger MemoryLedger where
  get l id := .ok (l.records.get? id)
  insert := insert
  replace := replace

end MemoryLedger

end EscrowLedger
