import EscrowLedger.Ledger.InMemory
import EscrowLedger.Proofs.Ledger.Run

/-!
# Steps of a ledger in memory

A write is granted exactly if it finds what it expects, and then enters its record; a refused one
leaves the ledger as it is.

## Main statements

* `MemoryLedger.perform_write` — what a request to write does.
* `MemoryLedger.isDiskFailure_perform` — a ledger in memory does not depend on a disk.
-/

namespace EscrowLedger.MemoryLedger

open Ledger (Request Reply Write Undisturbed perform run)

variable (m : MemoryLedger)

theorem insert_eq (id : JobId) (record : Record) :
    Ledger.insert m id record = if m.records.get? id = none
      then (.ok (), ⟨m.records.insert id record⟩) else (.error (.alreadyExists id), m) := by
  change (if (m.records.get? id).isSome = true then _ else _) = _
  cases hget : m.records.get? id with
  | none => rw [if_neg (by simp), if_pos rfl]
  | some current => rw [if_pos (by simp), if_neg (by simp)]

theorem exists_replace_eq (id : JobId) (expected record : Record) :
    ∃ reason : LedgerError, (∀ e, reason ≠ .disk e) ∧
      Ledger.replace m id expected record = if m.records.get? id = some expected
        then (.ok (), ⟨m.records.insert id record⟩) else (.error reason, m) := by
  simp only [Ledger.replace, replace, Record.ensureUnchanged]
  cases m.records.get? id with
  | none => exact ⟨.notFound id, by simp, by simp⟩
  | some current =>
    refine ⟨.conflict id current.stageName, by simp, ?_⟩
    by_cases h : current = expected
    · simp [h]
    · simp [h]

/-- The reply to a granted write, and to one that does not find what it expects. -/
theorem perform_write {r : Request} {w : Write} (h : r.write? = some w) :
    ∃ granted refused, granted.isGranted = true ∧ refused.isGranted = false ∧
      refused.isDiskFailure = false ∧
      perform m r = if m.records.get? w.id = w.expected
        then (granted, ⟨m.records.insert w.id w.record⟩) else (refused, m) := by
  cases r with
  | get | load | snapshot => cases h
  | insert id record =>
    obtain rfl := Option.some.inj h
    refine ⟨.done, .refused (.alreadyExists id), rfl, rfl, rfl, ?_⟩
    rw [perform, insert_eq]
    split <;> rfl
  | create id job =>
    obtain rfl := Option.some.inj h
    refine ⟨.created id, .refused (.alreadyExists id), rfl, rfl, rfl, ?_⟩
    rw [perform, Ledger.create, insert_eq]
    split <;> rfl
  | replace id expected record =>
    obtain rfl := Option.some.inj h
    obtain ⟨reason, hreason, hreplace⟩ := exists_replace_eq m id expected record
    refine ⟨.done, .refused reason, rfl, rfl, Reply.isDiskFailure_refused hreason, ?_⟩
    rw [perform, hreplace]
    split <;> rfl
  | save id read job =>
    obtain rfl := Option.some.inj h
    obtain ⟨reason, hreason, hreplace⟩ := exists_replace_eq m id read job.toRecord
    refine ⟨.done, .refused reason, rfl, rfl, Reply.isDiskFailure_refused hreason, ?_⟩
    rw [perform, Ledger.save, hreplace]
    split <;> rfl

theorem snapshot_ne_disk (id : JobId) (now : Instant) (e : DiskError) :
    Ledger.snapshot m id now ≠ .error (.disk e) := by
  rw [Ledger.snapshot_eq]
  simp only [Ledger.get]
  cases m.records.get? id with
  | none => simp
  | some record => cases hjob : Job.ofRecord record now <;> simp [hjob]

/-- A ledger in memory makes no call of the file system, so none can fail. -/
theorem isDiskFailure_perform (r : Request) : (perform m r).1.isDiskFailure = false := by
  cases hw : r.write? with
  | some w =>
    obtain ⟨granted, refused, hgranted, -, hrefused, h⟩ := perform_write m hw
    rw [h]
    split
    · exact Reply.isDiskFailure_of_isGranted hgranted
    · exact hrefused
  | none =>
    cases r with
    | insert | create | replace | save => cases hw
    | get => rfl
    | snapshot id now =>
      exact Reply.isDiskFailure_ofResult (fun _ => rfl) (snapshot_ne_disk m id now)
    | load id now =>
      refine Reply.isDiskFailure_ofResult (fun _ => rfl) fun e h => ?_
      rw [Ledger.load] at h
      cases hs : Ledger.snapshot m id now with
      | ok s => simp [hs, Except.map] at h
      | error reason =>
        rw [hs] at h
        obtain rfl : reason = .disk e := Except.error.inj h
        exact snapshot_ne_disk m id now e hs

theorem undisturbed_run (rs : List Request) : Undisturbed (run m rs).1 := by
  induction rs generalizing m with
  | nil => exact Ledger.undisturbed_nil
  | cons r rs ih => exact Ledger.undisturbed_cons.2 ⟨isDiskFailure_perform m r, ih _⟩

end EscrowLedger.MemoryLedger
