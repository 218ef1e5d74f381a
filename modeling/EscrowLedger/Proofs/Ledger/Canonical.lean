import EscrowLedger.Proofs.Ledger.Custody

/-!
# Records of jobs stay readable

A ledger that was empty and is used for jobs only holds nothing but records of jobs, whatever jobs
are entered and in whatever order: a job need not come from the one that it replaces. Every record
can be read at all times, and the job that is read from it has this very record, so reading a job
and saving it again changes nothing. A job that was entered is read back with its services and its
authorization, as new and as just made.

## Main definitions

* `Ledger.Request.job?`, `Ledger.Request.isOfJobs` — the job that a request enters, and whether it
  enters nothing else.
* `Ledger.HoldsJobs` — every record of a ledger is that of a job.
* `Ledger.KeepsJobs` — what holds of a run that starts with an empty ledger and is about jobs.

## Main statements

* `MemoryLedger.holdsJobs_perform`, `MemoryLedger.holdsJobs_run` — one request in memory, and all.
* `Ledger.keepsJobs_of_simulates` — ledgers that behave like those in memory.
* `Ledger.keepsJobs_run` — ledgers in memory and on disk.
-/

namespace EscrowLedger

namespace Ledger

/-- The job that a request enters if it is granted, with its id. -/
def Request.job? : Request → Option (JobId × Job)
  | .create id job => some (id, job)
  | .save id _ job => some (id, job)
  | .get _ | .insert _ _ | .replace _ _ _ | .load _ _ | .snapshot _ _ => none

/-- Whether a request writes nothing but jobs. -/
def Request.isOfJobs (r : Request) : Bool := r.write?.isNone || r.job?.isSome

theorem Request.write?_of_job? {r : Request} {id : JobId} {job : Job}
    (h : r.job? = some (id, job)) : ∃ expected, r.write? = some ⟨id, expected, job.toRecord⟩ := by
  cases r with
  | get | insert | replace | load | snapshot => cases h
  | create id job =>
    cases h
    exact ⟨none, rfl⟩
  | save id read job =>
    cases h
    exact ⟨some read, rfl⟩

theorem Request.exists_toRecord {r : Request} {w : Write} (h : r.isOfJobs = true)
    (hw : r.write? = some w) : ∃ job : Job, job.toRecord = w.record := by
  rw [isOfJobs, hw, Option.isNone_some, Bool.false_or] at h
  obtain ⟨⟨id, job⟩, hjob⟩ := Option.isSome_iff_exists.1 h
  obtain ⟨expected, hwrite⟩ := write?_of_job? hjob
  refine ⟨job, ?_⟩
  rw [← Option.some.inj (hwrite.symm.trans hw)]

-- ════════════════════════════════════════════════════════════════════════
-- Ledgers that hold jobs only
-- ════════════════════════════════════════════════════════════════════════

section Holding

variable {σ : Type} [Ledger σ] {l : σ} {id : JobId} {record : Record}

/-- Whether every record of a ledger is that of a job. -/
def HoldsJobs (l : σ) : Prop :=
  ∀ id record, get l id = .ok (some record) → ∃ job : Job, job.toRecord = record

theorem HoldsJobs.congr {τ : Type} [Ledger τ] {m : τ} (hm : HoldsJobs m)
    (h : ∀ id, get l id = get m id) : HoldsJobs l :=
  fun id record hget => hm id record ((h id).symm.trans hget)

theorem load_of_get {job : Job} (hget : get l id = .ok (some job.toRecord)) (now : Instant) :
    load l id now = .ok (.restore job.services job.authorization now) := by
  rw [load, snapshot_of_get hget]
  rfl

/-- The job that is read from a record has this record. -/
theorem HoldsJobs.load_eq (h : HoldsJobs l) (hget : get l id = .ok (some record)) (now : Instant) :
    ∃ job : Job, Job.ofRecord record now = .ok job ∧ load l id now = .ok job ∧
      job.toRecord = record := by
  obtain ⟨written, rfl⟩ := h id record hget
  exact ⟨.restore written.services written.authorization now, written.ofRecord_toRecord now,
    load_of_get hget now, Job.toRecord_congr rfl rfl⟩

/-- Whether or not there is a record, it is not one that describes no job. -/
theorem HoldsJobs.load_ne_invalidRecord (h : HoldsJobs l) {found : Option Record}
    (hget : get l id = .ok found) (now : Instant) (reason : JobError) :
    load l id now ≠ .error (.invalidRecord reason) := by
  intro hload
  cases found with
  | none =>
    rw [load, snapshot_eq, hget] at hload
    cases hload
  | some record =>
    obtain ⟨job, -, hjob, -⟩ := h.load_eq hget now
    rw [hjob] at hload
    cases hload

end Holding

end Ledger

-- ════════════════════════════════════════════════════════════════════════
-- Runs in memory
-- ════════════════════════════════════════════════════════════════════════

namespace MemoryLedger

open Ledger (Request HoldsJobs perform run)

theorem holdsJobs_empty : HoldsJobs empty := by
  intro id record hget
  have hnone : Table.get? (∅ : Table JobId Record) id = some record := Except.ok.inj hget
  rw [Table.get?_empty] at hnone
  cases hnone

theorem holdsJobs_perform {m : MemoryLedger} (h : HoldsJobs m) {r : Request}
    (hr : r.isOfJobs = true) : HoldsJobs (perform m r).2 := by
  rcases m.accepted_cases r with ⟨w, hw, -, hnext⟩ | ⟨-, hnext⟩
  · obtain ⟨-, hwrite⟩ := Ledger.accepted?_eq_some_iff.1 hw
    intro id record hget
    rw [hnext] at hget
    replace hget := Except.ok.inj hget
    rw [Table.get?_insert] at hget
    split at hget
    · obtain rfl := Option.some.inj hget
      exact Request.exists_toRecord hr hwrite
    · exact h id record (congrArg Except.ok hget)
  · rw [hnext]
    exact h

theorem holdsJobs_run {m : MemoryLedger} (h : HoldsJobs m) {rs : List Request}
    (hrs : ∀ r ∈ rs, r.isOfJobs = true) : HoldsJobs (run m rs).2 := by
  induction rs generalizing m with
  | nil => exact h
  | cons r rs ih =>
    have hfirst := holdsJobs_perform h (hrs r List.mem_cons_self)
    exact ih hfirst fun r' hr' => hrs r' (List.mem_cons_of_mem r hr')

end MemoryLedger

-- ════════════════════════════════════════════════════════════════════════
-- Runs of other ledgers
-- ════════════════════════════════════════════════════════════════════════

namespace Ledger

/-- What holds of a run that starts with an empty ledger and writes nothing but jobs. The moments of
the run are named by the requests before them. -/
structure KeepsJobs {σ : Type} [Ledger σ] (start : σ) (rs : List Request) : Prop where
  /-- A record can be read whatever the clock reads, and what is read has this record. -/
  readable : ∀ {before after id record}, rs = before ++ after →
    get (run start before).2 id = .ok (some record) → ∀ now,
    ∃ job, Job.ofRecord record now = .ok job ∧ load (run start before).2 id now = .ok job ∧
      job.toRecord = record
  /-- No job is refused for what its record holds. -/
  load_ne_invalidRecord : ∀ {before after}, rs = before ++ after → ∀ id now reason,
    load (run start before).2 id now ≠ .error (.invalidRecord reason)
  /-- A job that was entered is read back, until a later write is accepted under its id. -/
  load_of_granted : ∀ {before r between after id job},
    rs = before ++ r :: between ++ after → r.job? = some (id, job) →
    (perform (run start before).2 r).1.isGranted = true →
    acceptedUnder id between (run (run start (before ++ [r])).2 between).1 = [] → ∀ now,
    load (run start (before ++ r :: between)).2 id now
      = .ok (.restore job.services job.authorization now)

section Simulating

variable {σ : Type} [Ledger σ] {R : σ → MemoryLedger → Prop} {l : σ} {m : MemoryLedger}
  {rs : List Request} {id : JobId}

/-- A record stays for as long as no write is accepted under its id. -/
theorem Simulates.get_run_of_acceptedUnder (hR : Simulates R) (h : R l m)
    (hrs : Undisturbed (Ledger.run l rs).1)
    (hnone : acceptedUnder id rs (Ledger.run l rs).1 = []) :
    get (Ledger.run l rs).2 id = get l id := by
  obtain ⟨hreplies, hend⟩ := hR.run h hrs
  obtain ⟨-, hleft⟩ := m.isChain_run rs id
  rw [← hreplies, hnone] at hleft
  rw [hR.get_eq hend, hR.get_eq h]
  exact congrArg Except.ok hleft

theorem Simulates.get_perform_of_job? (hR : Simulates R) (h : R l m) {r : Request} {job : Job}
    (hjob : r.job? = some (id, job)) (hgranted : (Ledger.perform l r).1.isGranted = true) :
    get (Ledger.perform l r).2 id = .ok (some job.toRecord) := by
  obtain ⟨expected, hwrite⟩ := Request.write?_of_job? hjob
  have hacts := hR.actsAs h (Reply.isDiskFailure_of_isGranted hgranted)
  obtain ⟨-, hget⟩ := hacts.accepted (accepted?_eq_some_iff.2 ⟨hgranted, hwrite⟩)
  rw [hget, if_pos rfl]

theorem keepsJobs_of_simulates (hR : Simulates R) (h : R l .empty)
    (hquiet : Undisturbed (run l rs).1) (hrs : ∀ r ∈ rs, r.isOfJobs = true) : KeepsJobs l rs := by
  have hholds : ∀ {before after}, rs = before ++ after → HoldsJobs (run l before).2 := by
    rintro before after rfl
    have hmemory := MemoryLedger.holdsJobs_run MemoryLedger.holdsJobs_empty fun r hr =>
      hrs r (List.mem_append_left after hr)
    exact hmemory.congr (hR.get_eq (hR.run_before h hquiet))
  constructor
  case readable =>
    intro before after id record heq hget now
    exact (hholds heq).load_eq hget now
  case load_ne_invalidRecord =>
    intro before after heq id now reason
    have hfound : get (run l before).2 id = get (run MemoryLedger.empty before).2 id := by
      rw [heq] at hquiet
      exact hR.get_eq (hR.run_before h hquiet) id
    exact (hholds heq).load_ne_invalidRecord hfound now reason
  case load_of_granted =>
    intro before r between after id job heq hjob hgranted hnone now
    have hbetween : run l (before ++ r :: between)
        = ((run l before).1 ++ (perform (run l before).2 r).1
            :: (run (perform (run l before).2 r).2 between).1,
          (run (perform (run l before).2 r).2 between).2) := run_append l before _
    have hnext : (run l (before ++ [r])).2 = (perform (run l before).2 r).2 := by
      rw [run_append]
      rfl
    rw [heq, run_append, undisturbed_append, hbetween, undisturbed_append,
      undisturbed_cons] at hquiet
    obtain ⟨⟨hbefore, hreply, hlater⟩, -⟩ := hquiet
    have hstart := (hR.run h hbefore).2
    have hentered := (hR.perform hstart r hreply).2
    rw [hnext] at hnone
    refine load_of_get ?_ now
    rw [hbetween, hR.get_run_of_acceptedUnder hentered hlater hnone]
    exact hR.get_perform_of_job? hstart hjob hgranted

end Simulating

/-- Ledgers that were empty and are used for jobs only keep them readable, whatever jobs are entered
and whatever is read in between: in memory, and on disk if no call of the file system fails. A
document on disk then has records under ids only. -/
theorem keepsJobs_run {rs : List Request} (hrs : ∀ r ∈ rs, r.isOfJobs = true) :
    KeepsJobs MemoryLedger.empty rs ∧
    ∀ l : FileLedger, l.document = .ok ∅ → Undisturbed (run l rs).1 →
      KeepsJobs l rs ∧ ∀ {before after}, rs = before ++ after →
        ∃ doc, (run l before).2.document = .ok doc ∧ doc.others = ∅ := by
  have hmemory := MemoryLedger.empty.undisturbed_run rs
  refine ⟨keepsJobs_of_simulates simulates_eq rfl hmemory hrs, fun l hdoc hquiet => ?_⟩
  have hR := FileLedger.simulates_represents ∅
  have hrep : FileLedger.Represents ∅ l .empty := ⟨∅, hdoc, rfl, rfl⟩
  refine ⟨keepsJobs_of_simulates hR hrep hquiet hrs, ?_⟩
  rintro before after rfl
  obtain ⟨doc, hdoc', -, hothers⟩ := hR.run_before hrep hquiet
  exact ⟨doc, hdoc', hothers⟩

/-- A job is entered and given a key, then replaced by one that has none. -/
def unkeying : List Request :=
  [.create default default, .save default (default : Job).toRecord (.keyed Job.firstKey),
    .save default (Job.keyed Job.firstKey).toRecord default, .load default default]

/-- The job that has no key is read back, too. -/
theorem keepsJobs_run_unkeying :
    (∀ r ∈ unkeying, r.isOfJobs = true) ∧
    KeepsJobs MemoryLedger.empty unkeying ∧
    (FileLedger.mk ⟨["jobs.json"]⟩ .empty).document = .ok ∅ ∧
    Undisturbed (run (FileLedger.mk ⟨["jobs.json"]⟩ .empty) unkeying).1 ∧
    (run (FileLedger.mk ⟨["jobs.json"]⟩ .empty) unkeying).1
      = [.created default, .done, .done, .job default] ∧
    KeepsJobs (FileLedger.mk ⟨["jobs.json"]⟩ .empty) unkeying := by
  have hrs : ∀ r ∈ unkeying, r.isOfJobs = true := by decide
  have hdoc : (FileLedger.mk ⟨["jobs.json"]⟩ .empty).document = .ok ∅ := rfl
  have hrep : FileLedger.Represents ∅ ⟨⟨["jobs.json"]⟩, .empty⟩ .empty := ⟨∅, hdoc, rfl, rfl⟩
  have hfree : (FileLedger.mk ⟨["jobs.json"]⟩ .empty).IsUnhindered :=
    FileLedger.isUnhindered_of_node? (by decide) (by decide)
  have hquiet := FileLedger.undisturbed_run hrep hfree unkeying
  have hreplies := ((FileLedger.simulates_represents ∅).run hrep hquiet).1
  obtain ⟨hmemory, hfile⟩ := keepsJobs_run hrs
  exact ⟨hrs, hmemory, hdoc, hquiet, hreplies, (hfile _ hdoc hquiet).1⟩

end Ledger

end EscrowLedger
