import EscrowLedger.Proofs.Job.Draft
import EscrowLedger.Proofs.Ledger.Orderly

/-!
# Of several writers the first one wins

Any number of clients read one record, and each of them changes the authorization of the job that the
record describes. Whoever is the first to save wins. All others are told of the conflict, with the
stage that the winner has reached, and the record of the winner stays.

This rests on the records and not on the stages: a job with another authorization never has the
record that was read, whether or not that is one that a ledger would have written. So the first save
takes the token away from all others, even if they save the same stage with another key.

## Main definitions

* `Ledger.IsRace` — a run in which all who write under an id have read one record.
* `Ledger.IsWonBy` — the first save has won, and all others have lost.

## Main statements

* `Job.toRecord_ne` — another authorization means another record.
* `MemoryLedger.repliesUnder_of_taken`, `MemoryLedger.isWonBy_run` — after the first save, and from
  the start.
* `Ledger.first_save_wins` — ledgers in memory and on disk.
-/

namespace EscrowLedger

/-- A record is none of a job with another authorization than the one that is read from it. -/
theorem Job.toRecord_ne {r : Record} {now : Instant} {j j' : Job} (h : ofRecord r now = .ok j)
    (hne : j'.authorization ≠ j.authorization) : j'.toRecord ≠ r := by
  rintro rfl
  rw [ofRecord_toRecord] at h
  obtain rfl := Except.ok.inj h
  exact hne rfl

namespace Ledger

-- ════════════════════════════════════════════════════════════════════════
-- Races
-- ════════════════════════════════════════════════════════════════════════

/-- The job that a request would save under an id. -/
def Request.savedUnder? (id : JobId) : Request → Option Job
  | .save id' _ job => if id' = id then some job else none
  | _ => none

/-- The jobs that clients try to save under an id, in order. -/
def jobsUnder (id : JobId) (rs : List Request) : List Job := rs.filterMap (·.savedUnder? id)

/-- The replies to those who try to write under an id, in order. -/
def repliesUnder (id : JobId) (rs : List Request) (replies : List Reply) : List Reply :=
  ((rs.zip replies).filter (·.1.writesUnder id)).map (·.2)

/-- Whether all writes under an id are saves by clients that were shown one record, which stood there
at the start, and that have led its job to another authorization. Everything else is free. -/
structure IsRace {σ : Type} [Ledger σ] (l : σ) (id : JobId) (record : Record) (rs : List Request) :
    Prop where
  found : get l id = .ok (some record)
  save : ∀ {before r after}, rs = before ++ r :: after → r.writesUnder id = true →
    ∃ shown s policy now job, WasShown l id before shown ∧ shown.record = record ∧
      shown.job.advance s policy now = .ok job ∧
      job.authorization ≠ shown.job.authorization ∧ r = .save id record job

/-- Whether the first of those who try to save has succeeded and left the record of its job, and each
of the others was told of the conflict and of the stage of that job. -/
def IsWonBy {σ : Type} [Ledger σ] (l : σ) (id : JobId) (rs : List Request) (first : Job)
    (others : List Job) : Prop :=
  repliesUnder id rs (run l rs).1
      = .done :: others.map (fun _ => .refused (.conflict id first.stage.name)) ∧
    get (run l rs).2 id = .ok (some first.toRecord)

variable {id : JobId} {r : Request} {rs : List Request}

theorem jobsUnder_cons_of_not_writesUnder (h : r.writesUnder id = false) :
    jobsUnder id (r :: rs) = jobsUnder id rs := by
  refine List.filterMap_cons_none ?_
  cases r with
  | save id' read job => simpa [Request.savedUnder?, Request.writesUnder, Request.write?] using h
  | get | insert | create | replace | load | snapshot => rfl

theorem jobsUnder_cons_save (read : Record) (job : Job) :
    jobsUnder id (.save id read job :: rs) = job :: jobsUnder id rs :=
  List.filterMap_cons_some (if_pos rfl)

theorem repliesUnder_cons_of_not_writesUnder (h : r.writesUnder id = false) (reply : Reply)
    (replies : List Reply) :
    repliesUnder id (r :: rs) (reply :: replies) = repliesUnder id rs replies := by
  simp [repliesUnder, h]

theorem repliesUnder_cons_save (read : Record) (job : Job) (reply : Reply) (replies : List Reply) :
    repliesUnder id (.save id read job :: rs) (reply :: replies)
      = reply :: repliesUnder id rs replies := by
  simp [repliesUnder, Request.writesUnder, Request.write?]

/-- Whoever saves in a race saves another record than the one that all have read. -/
theorem IsRace.exists_save {σ : Type} [Ledger σ] {l : σ} {record : Record}
    (h : IsRace l id record rs) {r : Request} (hr : r ∈ rs) (hw : r.writesUnder id = true) :
    ∃ job, r = .save id record job ∧ job.toRecord ≠ record := by
  obtain ⟨before, after, rfl⟩ := List.append_of_mem hr
  obtain ⟨shown, _, _, _, job, hshown, hrecord, -, hne, rfl⟩ := h.save rfl hw
  obtain ⟨now, hjob⟩ := hshown.ofRecord
  rw [hrecord] at hjob
  exact ⟨job, rfl, Job.toRecord_ne hjob hne⟩

end Ledger

-- ════════════════════════════════════════════════════════════════════════
-- Races in memory
-- ════════════════════════════════════════════════════════════════════════

namespace MemoryLedger

open Ledger (Request Reply Write IsWonBy jobsUnder repliesUnder perform run)

variable (m : MemoryLedger) {id : JobId} {record current : Record} {rs : List Request}

theorem perform_save (hfound : m.records.get? id = some current) (read : Record) (job : Job) :
    perform m (.save id read job) = if current = read
      then (.done, ⟨m.records.insert id job.toRecord⟩)
      else (.refused (.conflict id current.stageName), m) := by
  simp only [perform, Ledger.save, Ledger.replace, replace, hfound, Record.ensureUnchanged]
  by_cases h : current = read
  · simp only [if_pos h, Reply.ofResult]
  · simp only [if_neg h, Reply.ofResult]

theorem get?_perform {r : Request} (h : r.writesUnder id = false) :
    (perform m r).2.records.get? id = m.records.get? id :=
  Except.ok.inj (isReliable.get_perform (l := m) trivial h)

/-- Once another record stands there, everybody who has read the first one is refused. -/
theorem repliesUnder_of_taken (hne : current ≠ record)
    (hfound : m.records.get? id = some current)
    (h : ∀ r ∈ rs, r.writesUnder id = true → ∃ job, r = .save id record job) :
    repliesUnder id rs (run m rs).1
        = (jobsUnder id rs).map (fun _ => .refused (.conflict id current.stageName)) ∧
      (run m rs).2.records.get? id = some current := by
  induction rs generalizing m with
  | nil => exact ⟨rfl, hfound⟩
  | cons r rs ih =>
    have hlater := fun r' (hr' : r' ∈ rs) => h r' (List.mem_cons_of_mem r hr')
    rw [Ledger.run_cons]
    cases hw : r.writesUnder id with
    | false =>
      obtain ⟨hreplies, hend⟩ :=
        ih _ ((m.get?_perform hw).trans hfound) hlater
      rw [Ledger.repliesUnder_cons_of_not_writesUnder hw,
        Ledger.jobsUnder_cons_of_not_writesUnder hw]
      exact ⟨hreplies, hend⟩
    | true =>
      obtain ⟨job, rfl⟩ := h r List.mem_cons_self hw
      obtain ⟨hreplies, hend⟩ := ih m hfound hlater
      rw [m.perform_save hfound, if_neg hne, Ledger.repliesUnder_cons_save,
        Ledger.jobsUnder_cons_save, hreplies]
      exact ⟨rfl, hend⟩

theorem isWonBy_run (hfound : m.records.get? id = some record)
    (h : ∀ r ∈ rs, r.writesUnder id = true →
      ∃ job, r = .save id record job ∧ job.toRecord ≠ record)
    {first : Job} {others : List Job} (hjobs : jobsUnder id rs = first :: others) :
    IsWonBy m id rs first others := by
  induction rs generalizing m with
  | nil => cases hjobs
  | cons r rs ih =>
    have hlater := fun r' (hr' : r' ∈ rs) => h r' (List.mem_cons_of_mem r hr')
    rw [IsWonBy, Ledger.run_cons]
    cases hw : r.writesUnder id with
    | false =>
      rw [Ledger.jobsUnder_cons_of_not_writesUnder hw] at hjobs
      obtain ⟨hreplies, hend⟩ :=
        ih _ ((m.get?_perform hw).trans hfound) hlater hjobs
      rw [Ledger.repliesUnder_cons_of_not_writesUnder hw]
      exact ⟨hreplies, hend⟩
    | true =>
      obtain ⟨job, rfl, hne⟩ := h r List.mem_cons_self hw
      rw [Ledger.jobsUnder_cons_save, List.cons.injEq] at hjobs
      obtain ⟨rfl, rfl⟩ := hjobs
      obtain ⟨hreplies, hend⟩ := repliesUnder_of_taken ⟨m.records.insert id job.toRecord⟩ hne
        (Table.get?_insert_self _ _ _) fun r' hr' hw' => (hlater r' hr' hw').imp fun _ => And.left
      rw [m.perform_save hfound, if_pos rfl, Ledger.repliesUnder_cons_save, hreplies,
        Job.stageName_toRecord]
      exact ⟨rfl, congrArg Except.ok hend⟩

end MemoryLedger

-- ════════════════════════════════════════════════════════════════════════
-- Races of other ledgers
-- ════════════════════════════════════════════════════════════════════════

namespace Ledger

variable {id : JobId} {record : Record} {rs : List Request} {first : Job} {others : List Job}

theorem isWonBy_of_simulates {σ : Type} [Ledger σ] {R : σ → MemoryLedger → Prop}
    (hR : Simulates R) {l : σ} {m : MemoryLedger} (h : R l m) (hrs : Undisturbed (run l rs).1)
    (hrace : IsRace l id record rs) (hjobs : jobsUnder id rs = first :: others) :
    IsWonBy l id rs first others := by
  have hfound : m.records.get? id = some record := by
    have hget := (hR.get_eq h id).symm.trans hrace.found
    exact Except.ok.inj hget
  obtain ⟨hreplies, hend⟩ := hR.run h hrs
  obtain ⟨hwon, hleft⟩ := m.isWonBy_run hfound (fun r => hrace.exists_save) hjobs
  rw [IsWonBy, hreplies, hR.get_eq hend]
  exact ⟨hwon, hleft⟩

/-- Of all clients that have read one record and save jobs with other authorizations, in whatever
order they come, the first one wins and the others are told by whom they were beaten: in memory, and
on disk if no call of the file system fails. -/
theorem first_save_wins (hjobs : jobsUnder id rs = first :: others) :
    (∀ m : MemoryLedger, IsRace m id record rs → IsWonBy m id rs first others) ∧
    ∀ l : FileLedger, IsRace l id record rs → Undisturbed (run l rs).1 →
      IsWonBy l id rs first others := by
  constructor
  · intro m hrace
    exact isWonBy_of_simulates simulates_eq rfl (m.undisturbed_run rs) hrace hjobs
  · intro l hrace hrs
    obtain ⟨doc, hdoc, -⟩ := Except.map_eq_ok_iff.1 hrace.found
    exact isWonBy_of_simulates (FileLedger.simulates_represents doc.others)
      ⟨doc, hdoc, rfl, rfl⟩ hrs hrace hjobs

/-- The record of a new job, with a key that no ledger writes. -/
def annotated : Record := (default : Job).toRecord.insert "NOTE" "1"

/-- A ledger on disk with this record. -/
def annotatedLedger : FileLedger :=
  (perform (FileLedger.mk ⟨["jobs.json"]⟩ Disk.draftDisk) (.insert default annotated)).2

/-- Two clients read the record and give the job different keys at the same stage. -/
def twoKeys : List Request :=
  [.snapshot default default, .save default annotated (.keyed Job.firstKey),
    .save default annotated (.keyed Job.secondKey)]

/-- The first of the two wins. -/
theorem first_save_wins_twoKeys :
    jobsUnder default twoKeys = [.keyed Job.firstKey, .keyed Job.secondKey] ∧
    IsRace annotatedLedger default annotated twoKeys ∧
    Undisturbed (run annotatedLedger twoKeys).1 ∧
    IsWonBy annotatedLedger default twoKeys (.keyed Job.firstKey)
      [.keyed Job.secondKey] := by
  obtain ⟨hreply, hfree⟩ := FileLedger.isUnhindered_perform (Disk.shows_iff.1 Disk.shows_draft)
    Disk.isUnhindered_draft (.insert default annotated)
  have hR := FileLedger.simulates_represents Disk.draft.others
  have hrep := (hR.perform Disk.represents_draft _ hreply).2
  have hfound : get annotatedLedger default = .ok (some annotated) := hR.get_eq hrep default
  have hshown : (perform annotatedLedger (.snapshot default default)).1
      = .snapshot ⟨default, annotated⟩ :=
    perform_snapshot_eq_iff.2 (snapshot_eq_ok_iff.2 ⟨hfound, rfl⟩)
  have hrace : IsRace annotatedLedger default annotated twoKeys := by
    refine ⟨hfound, fun {before r after} heq hw => ?_⟩
    rcases before with _ | ⟨_, _ | ⟨_, _ | ⟨_, before⟩⟩⟩
    · obtain ⟨rfl, -⟩ := List.cons.inj heq
      cases hw
    · cases heq
      exact ⟨_, _, .lenient, default, _, ⟨[], _, _, rfl, hshown⟩, rfl, Job.advance_keyed _ _,
        by rintro ⟨⟩, rfl⟩
    · cases heq
      exact ⟨_, _, .lenient, default, _, ⟨[], _, _, rfl, hshown⟩, rfl, Job.advance_keyed _ _,
        by rintro ⟨⟩, rfl⟩
    · simp [twoKeys] at heq
  have hquiet := FileLedger.undisturbed_run hrep hfree twoKeys
  exact ⟨rfl, hrace, hquiet, (first_save_wins rfl).2 annotatedLedger hrace hquiet⟩

end Ledger

end EscrowLedger
