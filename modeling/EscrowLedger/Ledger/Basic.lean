import EscrowLedger.Disk.Basic
import EscrowLedger.Job.Draft
import EscrowLedger.Job.Id
import EscrowLedger.Job.Record
import EscrowLedger.Json.Fault

/-!
# Ledgers

A ledger keeps the record of every job under its id. A record is replaced only if it still is the
one that the writer has read; so of several writers that start from one record the first one wins,
and the others learn of it.

## Main definitions

* `Ledger` — the operations that every kind of ledger has.
* `Snapshot` — a job together with the record it was read from, the token for its next write.
* `Ledger.create`, `Ledger.load`, `Ledger.snapshot`, `Ledger.save` — the operations on jobs.
* `LedgerError` — why an operation is refused.
-/

namespace EscrowLedger

/-- Why an operation on a ledger is refused. -/
inductive LedgerError where
  | notFound (id : JobId)
  | alreadyExists (id : JobId)
  /-- The record changed after it was read; the stage name that it has now is given. -/
  | conflict (id : JobId) (found : String)
  /-- A record describes no job. -/
  | invalidRecord (reason : JobError)
  | disk (reason : DiskError)
  /-- The file of the ledger is not what a ledger writes. -/
  | document (reason : Json.Fault)
deriving DecidableEq

namespace LedgerError

def message : LedgerError → String
  | .notFound id => "job not found: " ++ id.toText
  | .alreadyExists id => "job already exists: " ++ id.toText
  | .conflict id found =>
    "job " ++ id.toText ++ " was modified concurrently (now at stage " ++ found ++ ")"
  | .invalidRecord reason => "stored record is invalid: " ++ reason.message
  | .disk reason => "IO error: " ++ reason.message
  | .document reason => "JSON error: " ++ reason.message

/-- The wording of the error that lies behind an error, if there is one. -/
def cause? : LedgerError → Option String
  | .invalidRecord reason => some reason.message
  | .disk reason => some reason.message
  | .document reason => some reason.message
  | _ => none

end LedgerError

/-- Refuses a write if the record is not the expected one any more. -/
def Record.ensureUnchanged (id : JobId) (expected current : Record) : Except LedgerError Unit :=
  if current = expected then .ok () else .error (.conflict id current.stageName)

/-- A job together with the record it was read from. -/
structure Snapshot where
  job : Job
  record : Record
deriving DecidableEq

/-- The operations of a ledger. A refused write may still have a new state, so it is given in every
case. -/
class Ledger (σ : Type) where
  /-- The record under an id. -/
  get : σ → JobId → Except LedgerError (Option Record)
  /-- Enters a record under an id that has none. -/
  insert : σ → JobId → Record → Except LedgerError Unit × σ
  /-- Replaces the record under an id if it is the expected one, given first. -/
  replace : σ → JobId → Record → Record → Except LedgerError Unit × σ

namespace Ledger

variable {σ : Type} [Ledger σ]

def create (l : σ) (id : JobId) (j : Job) : Except LedgerError JobId × σ :=
  let result := insert l id j.toRecord
  (result.1.map fun _ => id, result.2)

def snapshot (l : σ) (id : JobId) (now : Instant) : Except LedgerError Snapshot := do
  match ← get l id with
  | none => throw (.notFound id)
  | some record =>
    let job ← (Job.ofRecord record now).mapError .invalidRecord
    pure ⟨job, record⟩

def load (l : σ) (id : JobId) (now : Instant) : Except LedgerError Job :=
  (snapshot l id now).map (·.job)

/-- Writes a job if its record still is the one that was read. -/
def save (l : σ) (id : JobId) (read : Record) (j : Job) : Except LedgerError Unit × σ :=
  replace l id read j.toRecord

end Ledger

end EscrowLedger
