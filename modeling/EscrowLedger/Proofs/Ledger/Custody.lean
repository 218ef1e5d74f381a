import EscrowLedger.Proofs.Job.HandOver
import EscrowLedger.Proofs.Ledger.Orderly

/-!
# Jobs in custody

A client may keep a job in memory for as long as the handshake takes, or leave it with a ledger and
read it back for every submission. What is read back counts as new and as just made, so the two jobs
do not have the same states and times; but whether a submission is granted rests on the stage alone.
So both clients have the same submissions granted, and the others refused for the same reasons,
whatever their clocks read, and the ledger never lets the second one down. A third way to carry a job
is as a text, which loses nothing if there are timestamps for the times of the job.

## Main definitions

* `Turn` — one submission, with all that may differ between the clients.
* `Turn.keep`, `Turn.fetch` — the turn of a client that keeps the job, and of one that fetches it.
* `Turn.run` — turns one after the other.
* `Ledger.ServesAsMemory` — the two clients fare alike.

## Main statements

* `Ledger.IsReliable.fetch_eq_keep` — one turn.
* `Ledger.IsReliable.servesAsMemory` — all turns.
* `Ledger.servesAsMemory_of_create` — ledgers in memory and on disk, and jobs that are handed over.
-/

namespace EscrowLedger

open Ledger (Request perform)

/-- One submission to a job, with what the clocks of the two clients read, and with what others ask
of the ledger. -/
structure Turn where
  submission : Submission
  policy : Policy
  keptAt : Instant
  readAt : Instant
  changedAt : Instant
  /-- What others ask before the job is read. -/
  earlier : List Request
  /-- What others ask before it is saved. -/
  between : List Request

namespace Turn

/-- How a turn ends. -/
inductive Ending where
  | granted
  | rejected (reason : JobError)
  /-- The ledger refuses to show the job or to save it. -/
  | failed (reason : LedgerError)
deriving DecidableEq

/-- Whether nobody else writes under an id. -/
def LeavesAlone (id : JobId) (t : Turn) : Prop :=
  ∀ r ∈ t.earlier ++ t.between, r.writesUnder id = false

/-- The turn of a client that keeps the job, as it was if the submission is rejected. -/
def keep (t : Turn) (j : Job) : Ending × Job :=
  match j.advance t.submission t.policy t.keptAt with
  | .error e => (.rejected e, j)
  | .ok next => (.granted, next)

def ofSaved : Except LedgerError Unit → Ending
  | .ok () => .granted
  | .error e => .failed e

/-- The turn of a client that reads the job from a ledger and saves what has become of it. -/
def fetch {σ : Type} [Ledger σ] (id : JobId) (t : Turn) (l : σ) : Ending × σ :=
  let found := (Ledger.run l t.earlier).2
  match Ledger.snapshot found id t.readAt with
  | .error e => (.failed e, found)
  | .ok shown =>
    match shown.job.advance t.submission t.policy t.changedAt with
    | .error e => (.rejected e, found)
    | .ok next =>
      let result := Ledger.save (Ledger.run found t.between).2 id shown.record next
      (ofSaved result.1, result.2)

/-- The endings of turns that are taken one after the other, and what is left after the last one. -/
def run {α : Type} (take : Turn → α → Ending × α) (a : α) : List Turn → List Ending × α
  | [] => ([], a)
  | t :: ts => ((take t a).1 :: (run take (take t a).2 ts).1, (run take (take t a).2 ts).2)

theorem keep_eq (t : Turn) (j : Job) :
    t.keep j = match t.submission.judge t.policy j.stage with
      | .error e => (.rejected e, j)
      | .ok auth =>
        (.granted, Draft.commit ⟨{ j with authorization := auth }, t.policy⟩ t.keptAt) := by
  rw [keep, Job.advance_eq]
  cases t.submission.judge t.policy j.stage <;> rfl

theorem ending_keep_ne_failed (t : Turn) (j : Job) (e : LedgerError) : (t.keep j).1 ≠ .failed e := by
  rw [keep_eq]
  split <;> rintro ⟨⟩

theorem failed_not_mem_keep (e : LedgerError) (j : Job) (ts : List Turn) :
    .failed e ∉ (run keep j ts).1 := by
  induction ts generalizing j with
  | nil => exact List.not_mem_nil
  | cons t ts ih =>
    rw [run, List.mem_cons, not_or]
    exact ⟨(t.ending_keep_ne_failed j e).symm, ih _⟩

end Turn

namespace Ledger

/-- Whether a client that fetches a job from a ledger has the same submissions granted, and the
others rejected for the same reasons, as one that keeps the job, is never let down by the ledger, and
after every turn could read a job that differs from the kept one in state and times at most. -/
structure ServesAsMemory {σ : Type} [Ledger σ] (l : σ) (id : JobId) (j : Job) (ts : List Turn) :
    Prop where
  endings_eq : (Turn.run (Turn.fetch id) l ts).1 = (Turn.run Turn.keep j ts).1
  not_failed : ∀ e, .failed e ∉ (Turn.run (Turn.fetch id) l ts).1
  snapshot_eq : ∀ {before after kept}, ts = before ++ after →
    kept = (Turn.run Turn.keep j before).2 → ∀ now,
    snapshot (Turn.run (Turn.fetch id) l before).2 id now
      = .ok ⟨.restore kept.services kept.authorization now, kept.toRecord⟩

variable {σ : Type} [Ledger σ] {P : σ → Prop} {l : σ} {id : JobId} {j : Job}

theorem snapshot_of_get (hget : get l id = .ok (some j.toRecord)) (now : Instant) :
    snapshot l id now = .ok ⟨.restore j.services j.authorization now, j.toRecord⟩ :=
  snapshot_eq_ok_iff.2 ⟨hget, j.ofRecord_toRecord now⟩

/-- A save that finds the record it expects succeeds. -/
theorem IsReliable.save_of_get (hP : IsReliable P) (hl : P l) {read : Record}
    (hget : get l id = .ok (some read)) (j : Job) : (save l id read j).1 = .ok () ∧
      P (save l id read j).2 ∧ get (save l id read j).2 id = .ok (some j.toRecord) := by
  have hwrite : (Request.save id read j).write? = some ⟨id, some read, j.toRecord⟩ := rfl
  have hgranted := hP.granted hl hwrite hget
  refine ⟨?_, hP.perform hl (.save id read j), hP.get_of_expected hl hwrite hget⟩
  rw [perform] at hgranted
  cases hsave : (save l id read j).1 with
  | error e =>
    rw [hsave] at hgranted
    cases hgranted
  | ok _ => rfl

/-- What is read back is judged by the stage that was saved. -/
theorem fetch_of_get {t : Turn} (hget : get (run l t.earlier).2 id = .ok (some j.toRecord)) :
    t.fetch id l = match t.submission.judge t.policy j.stage with
      | .error e => (.rejected e, (run l t.earlier).2)
      | .ok auth =>
        let next := Draft.commit ⟨{ Job.restore j.services j.authorization t.readAt with
          authorization := auth }, t.policy⟩ t.changedAt
        let result := save (run (run l t.earlier).2 t.between).2 id j.toRecord next
        (Turn.ofSaved result.1, result.2) := by
  have hstage : (Job.restore j.services j.authorization t.readAt).stage = j.stage := rfl
  rw [Turn.fetch, snapshot_of_get hget]
  simp only [Job.advance_eq, hstage]
  cases t.submission.judge t.policy j.stage <;> rfl

/-- A turn ends alike for both clients, and leaves them with jobs that have one record. -/
theorem IsReliable.fetch_eq_keep (hP : IsReliable P) (hl : P l)
    (hget : get l id = .ok (some j.toRecord)) {t : Turn} (ht : t.LeavesAlone id) :
    (t.fetch id l).1 = (t.keep j).1 ∧ P (t.fetch id l).2 ∧
      get (t.fetch id l).2 id = .ok (some (t.keep j).2.toRecord) := by
  have hread : get (run l t.earlier).2 id = .ok (some j.toRecord) :=
    (hP.get_run hl fun r hr => ht r (List.mem_append_left _ hr)).trans hget
  rw [fetch_of_get hread, Turn.keep_eq]
  cases t.submission.judge t.policy j.stage with
  | error e => exact ⟨rfl, hP.run hl _, hread⟩
  | ok auth =>
    have hbetween : get (run (run l t.earlier).2 t.between).2 id = .ok (some j.toRecord) :=
      (hP.get_run (hP.run hl _) fun r hr => ht r (List.mem_append_right _ hr)).trans hread
    obtain ⟨hsaved, hkept, hshows⟩ := hP.save_of_get (hP.run (hP.run hl t.earlier) t.between)
      hbetween (Draft.commit ⟨{ Job.restore j.services j.authorization t.readAt with
        authorization := auth }, t.policy⟩ t.changedAt)
    refine ⟨congrArg Turn.ofSaved hsaved, hkept, hshows.trans ?_⟩
    rw [Job.toRecord_congr]
    · rfl
    · rfl

theorem IsReliable.run_fetch (hP : IsReliable P) (hl : P l)
    (hget : get l id = .ok (some j.toRecord)) {ts : List Turn} (hts : ∀ t ∈ ts, t.LeavesAlone id) :
    (Turn.run (Turn.fetch id) l ts).1 = (Turn.run Turn.keep j ts).1 ∧
      get (Turn.run (Turn.fetch id) l ts).2 id
        = .ok (some (Turn.run Turn.keep j ts).2.toRecord) := by
  induction ts generalizing l j with
  | nil => exact ⟨rfl, hget⟩
  | cons t ts ih =>
    obtain ⟨hending, hnext, hleft⟩ := hP.fetch_eq_keep hl hget (hts t List.mem_cons_self)
    obtain ⟨hendings, hend⟩ := ih hnext hleft fun t' ht' => hts t' (List.mem_cons_of_mem t ht')
    rw [Turn.run, Turn.run, hending, hendings]
    exact ⟨rfl, hend⟩

theorem IsReliable.servesAsMemory (hP : IsReliable P) (hl : P l)
    (hget : get l id = .ok (some j.toRecord)) {ts : List Turn} (hts : ∀ t ∈ ts, t.LeavesAlone id) :
    ServesAsMemory l id j ts := by
  obtain ⟨hendings, -⟩ := hP.run_fetch hl hget hts
  constructor
  case endings_eq => exact hendings
  case not_failed =>
    intro e
    rw [hendings]
    exact Turn.failed_not_mem_keep e j ts
  case snapshot_eq =>
    rintro before after kept rfl rfl now
    obtain ⟨-, hleft⟩ := hP.run_fetch hl hget fun t ht => hts t (List.mem_append_left _ ht)
    exact snapshot_of_get hleft now

-- ════════════════════════════════════════════════════════════════════════
-- Ledgers in memory and on disk
-- ════════════════════════════════════════════════════════════════════════

theorem create_of_get_memory {m : MemoryLedger} (hget : get m id = .ok none) (j : Job) :
    (create m id j).1 = .ok id ∧ get (create m id j).2 id = .ok (some j.toRecord) := by
  have hnone : m.records.get? id = none := Except.ok.inj hget
  rw [create, MemoryLedger.insert_eq, if_pos hnone]
  exact ⟨rfl, congrArg Except.ok (Table.get?_insert_self _ _ _)⟩

/-- A new job is entered in a ledger on disk unless a call of the file system fails, and then nothing
hinders the file system any more. -/
theorem create_of_get_file {l : FileLedger} (hget : get l id = .ok none) (j : Job)
    (hok : (perform l (.create id j)).1.isDiskFailure = false) :
    (create l id j).1 = .ok id ∧ (create l id j).2.IsAvailable ∧
      get (create l id j).2 id = .ok (some j.toRecord) := by
  rw [FileLedger.get_eq] at hget
  obtain ⟨d, hd, hnone⟩ := Except.map_eq_ok_iff.1 hget
  have hinsert : insert l id j.toRecord = l.store (d.insert id.toText j.toRecord) := by
    have hnew : d.contains id.toText = false := by rw [Table.contains, hnone]; rfl
    simp only [FileLedger.insert_eq, hd, hnew, if_neg Bool.false_ne_true]
  rw [perform, create, hinsert] at hok
  rw [create, hinsert]
  cases hstore : (l.store (d.insert id.toText j.toRecord)).1 with
  | error e =>
    obtain ⟨e', rfl⟩ := FileLedger.exists_disk_of_store hstore
    rw [hstore] at hok
    cases hok
  | ok _ =>
    refine ⟨rfl, FileLedger.isAvailable_store hstore, ?_⟩
    rw [FileLedger.get_of_document (FileLedger.document_of_store hstore)]
    simp only [get, Document.get?_jobs, Table.get?_insert_self]

/-- A job that is left with a ledger and read back for every submission has the same submissions
granted, and the others rejected for the same reasons, as one that is kept: in memory, and on disk if
no call of the file system fails when the job is entered. A job that is handed over as a text
wherever one likes loses nothing at all, as long as there are timestamps for its times when that
happens. There always are if the job came with them and the clock reads no time without one. -/
theorem servesAsMemory_of_create (id : JobId) (j : Job) {ts : List Turn}
    (hts : ∀ t ∈ ts, t.LeavesAlone id) :
    (∀ m : MemoryLedger, get m id = .ok none →
      (create m id j).1 = .ok id ∧ ServesAsMemory (create m id j).2 id j ts) ∧
    (∀ l : FileLedger, get l id = .ok none →
      (perform l (.create id j)).1.isDiskFailure = false →
      (create l id j).1 = .ok id ∧ ServesAsMemory (create l id j).2 id j ts) ∧
    (∀ (w : Session) (steps : List Session.Step), w.HandsOverTimed steps →
      (w.trace steps).filter (·.1 ≠ .handOff) = w.trace (steps.filter (· ≠ .handOff)) ∧
      w.after steps = w.after (steps.filter (· ≠ .handOff)) ∧
      ∀ outcome job, (.handOff, outcome, job) ∈ w.trace steps → outcome = .done) ∧
    (∀ (w : Session) (steps : List Session.Step), w.HasTimestamps →
      (∀ s ∈ steps, s.HasTimestamp) → w.HandsOverTimed steps) := by
  refine ⟨fun m hget => ?_, fun l hget hok => ?_, fun w steps htimed => ?_, fun w steps hw hsteps =>
    hw.handsOverTimed hsteps⟩
  · obtain ⟨hcreated, hshows⟩ := create_of_get_memory hget j
    exact ⟨hcreated, MemoryLedger.isReliable.servesAsMemory trivial hshows hts⟩
  · obtain ⟨hcreated, havailable, hshows⟩ := create_of_get_file hget j hok
    exact ⟨hcreated, FileLedger.isReliable.servesAsMemory havailable hshows hts⟩
  · obtain ⟨htrace, hafter⟩ := Session.trace_filter_handOff htimed
    exact ⟨htrace, hafter, fun _ _ => Session.outcome_of_mem_trace htimed⟩

/-- A new job is keyed, and somebody else enters a job; then a submission has no key. -/
def keyedTurns : List Turn :=
  [⟨(Authorization.initial (some Job.firstKey)).toSubmission, .forwardOnly, default, default,
      default, [], [.insert (.ofNat 1) ∅]⟩,
    ⟨.empty .initial, .lenient, default, default, default, [.get default], []⟩]

/-- A job is handed over, changed, and handed over again. -/
def handedOver : List Session.Step :=
  [.handOff, .advance (Authorization.initial (some Job.firstKey)).toSubmission .lenient default,
    .handOff]

/-- One submission is granted and one rejected, by a ledger on disk as in memory. A job that is
handed over goes on as if it were not. -/
theorem servesAsMemory_of_create_keyedTurns :
    (∀ t ∈ keyedTurns, t.LeavesAlone default) ∧
    (Turn.run Turn.keep default keyedTurns).1
      = [.granted, .rejected (.invalidAuthorization ⟨.initial, .sessionKey, .required⟩)] ∧
    get MemoryLedger.empty default = .ok none ∧
    ServesAsMemory (create MemoryLedger.empty default default).2 default default keyedTurns ∧
    get (FileLedger.mk ⟨["jobs.json"]⟩ Disk.draftDisk) default = .ok none ∧
    (create (FileLedger.mk ⟨["jobs.json"]⟩ Disk.draftDisk) default default).1 = .ok default ∧
    ServesAsMemory (create (FileLedger.mk ⟨["jobs.json"]⟩ Disk.draftDisk) default default).2
      default default keyedTurns ∧
    (Session.start default).HasTimestamps ∧ (∀ s ∈ handedOver, s.HasTimestamp) ∧
    (Session.start default).after handedOver
      = (Session.start default).after (handedOver.filter (· ≠ .handOff)) := by
  have hother : JobId.ofNat 1 ≠ default := by decide +kernel
  have hts : ∀ t ∈ keyedTurns, t.LeavesAlone default := by
    simp [keyedTurns, Turn.LeavesAlone, hother, Request.writesUnder, Request.write?]
  have hdoc := Disk.shows_iff.1 Disk.shows_draft
  have hget : get (FileLedger.mk ⟨["jobs.json"]⟩ Disk.draftDisk) default = .ok none :=
    FileLedger.get_of_document hdoc default
  have hok := (FileLedger.isUnhindered_perform hdoc Disk.isUnhindered_draft
    (.create default default)).1
  have hepoch : (default : Instant).HasTimestamp := by decide
  have hstart : (Session.start default).HasTimestamps :=
    Session.hasTimestamps_start ⟨hepoch, hepoch⟩
  have hsteps : ∀ s ∈ handedOver, s.HasTimestamp := by
    simp only [handedOver, List.forall_mem_cons, List.not_mem_nil, false_implies, implies_true,
      and_true]
    exact ⟨trivial, hepoch, trivial⟩
  obtain ⟨hmemory, hfile, hhanded, htimed⟩ := servesAsMemory_of_create default default hts
  obtain ⟨-, hafter, -⟩ := hhanded _ _ (htimed _ _ hstart hsteps)
  obtain ⟨hcreated, hserves⟩ := hfile _ hget hok
  exact ⟨hts, rfl, rfl, (hmemory .empty rfl).2, hget, hcreated, hserves, hstart, hsteps, hafter⟩

/-- A job that was created in a leap second inside of a minute does not go on as if it were not handed
over: another job follows from the next step. If it was changed at the start of the next second, its
text is refused. -/
theorem after_handOff_restart_ne :
    ((Session.start (.create default Job.insideMinute)).after [.handOff, .restart]).job
      = .create default Job.halfPast ∧
    ((Session.start (.create default Job.insideMinute)).after [.restart]).job
      = .create default Job.insideMinute ∧
    Job.create default Job.halfPast ≠ .create default Job.insideMinute ∧
    ((Session.start (.create default Job.insideMinute)).after [.commit Job.nextSecond]).perform .handOff
      = (.unreadable (.rejected (JobError.timestampOrder Job.halfPast Job.nextSecond).message),
        (Session.start (.create default Job.insideMinute)).after [.commit Job.nextSecond]) := by
  refine ⟨?_, rfl, by decide, ?_⟩
  · rw [show [Session.Step.handOff, .restart] = [.handOff] ++ [.restart] from rfl,
      Session.after_append, Session.after_handOff_insideMinute]
    rfl
  · rw [Session.perform, Job.ofText_toText]
    rfl

end Ledger

end EscrowLedger
