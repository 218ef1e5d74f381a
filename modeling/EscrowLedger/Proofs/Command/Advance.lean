import EscrowLedger.Proofs.Command.Forward
import EscrowLedger.Proofs.Command.Options

/-!
# Commands that advance a job

A command line that advances a job succeeds exactly if the ledger that it names has a job under the
id and the options that it gives make up an authorization of the stage that it names, which must not
lead back where stages may only go forward. Then the record of the job is replaced by one that has
the old services, the new stage and the artifacts of the options, and no artifact of the old record;
no other record is touched. A command that does not succeed leaves the disk as it is.

## Main definitions

* `Command.ledgerPath` — the ledger that a command line uses.
* `Command.Grants` — when a command line may advance a job.
* `Command.advancedText` — the texts of the record that it leaves.

## Main statements

* `Command.advance_of_granted`, `Command.advance_of_not_granted` — an advance on an open ledger.
* `Command.run_advance` — a whole command line.
-/

namespace EscrowLedger

namespace Submission

/-- A submission that passes the check is granted unless it leads back where it must not. -/
theorem exists_judge {s : Submission} (hcheck : s.check = .ok ()) {policy : Policy} {old : Stage}
    (horder : ¬(policy = .forwardOnly ∧ s.stage < old)) : ∃ auth, s.judge policy old = .ok auth ∧
      auth.isUnkeyed = false ∧ auth.stage = s.stage ∧
      ∀ a, (auth.get a).map (·.text) = (s.get a).filter (· ≠ "") := by
  obtain ⟨auth, hauth, hkeyed, hstage, htext⟩ := Authorization.exists_ofSubmission hcheck
  exact ⟨auth, judge_eq_ok_iff.2 ⟨hcheck, horder, hauth⟩, hkeyed, hstage, htext⟩

theorem breaks_eq_false_iff {s : Submission} {a : Artifact} : s.breaks a = false ↔
    (s.stage.rule a = .required → ∃ text, s.get a = some text ∧ Text.isBlank text = false) ∧
      (s.stage.rule a = .forbidden → (s.get a).getD "" = "") := by
  rw [breaks]
  cases s.stage.rule a with
  | required =>
    simp only [Rule.isBroken, forall_const, reduceCtorEq, false_implies, and_true]
    cases s.get a with
    | none => simp [Text.isBlank_empty]
    | some text => simp
  | forbidden => simp [Rule.isBroken]

end Submission

/-- The settings in force are those of the file, but for the path of the ledger. -/
theorem Settings.load_of_ofDisk {d : Disk} {file : Settings} (h : ofDisk d = .ok file)
    (environment : Environment) : load d environment = .ok { file with
      storePath := ((Environment.text? environment.storePath).filter (· ≠ "")).getD file.storePath }
      := by
  rw [load, h]
  cases Environment.text? environment.storePath with
  | none => rfl
  | some path =>
    by_cases hpath : path = ""
    · subst hpath
      rfl
    · have hfilter : (some path).filter (· ≠ "") = some path := by simp [hpath]
      rw [hfilter]
      simp only [bind, Except.bind, if_neg hpath]
      rfl

namespace Command

/-- Whether a run reports that a call of the file system failed. -/
def Outcome.IsDiskFailure (o : Outcome) : Prop := ∃ e, o = .refusal "" (ledgerReason (.disk e))

-- ════════════════════════════════════════════════════════════════════════
-- Advances on a ledger that is open
-- ════════════════════════════════════════════════════════════════════════

section Open

variable {l : FileLedger} {id : JobId} {s : Submission} {policy : Policy} {now : Instant}

theorem snapshot_of_document {doc : Document} {record : Record} {job : Job}
    (hdoc : l.document = .ok doc) (hget : doc.get? id.toText = some record)
    (hjob : Job.ofRecord record now = .ok job) : Ledger.snapshot l id now = .ok ⟨job, record⟩ := by
  refine Ledger.snapshot_eq_ok_iff.2 ⟨?_, hjob⟩
  rw [FileLedger.get_of_document hdoc]
  simp only [Ledger.get, Document.get?_jobs, hget]

/-- An advance that is granted reports how the document was replaced. -/
theorem advance_eq_store {doc : Document} {record : Record} {job next : Job}
    (hdoc : l.document = .ok doc) (hget : doc.get? id.toText = some record)
    (hjob : Job.ofRecord record now = .ok job) (hnext : job.advance s policy now = .ok next) :
    advance l id s policy now = (match (l.store (doc.insert id.toText next.toRecord)).1 with
      | .ok () => .success (Report.advanced id next)
      | .error e => .refusal "" (ledgerReason e),
      (l.store (doc.insert id.toText next.toRecord)).2) := by
  have hread := snapshot_of_document hdoc hget hjob
  have hsave := FileLedger.save_of_document hdoc hget next
  unfold advance
  simp only [hread, hnext, hsave]
  cases (l.store (doc.insert id.toText next.toRecord)).1 <;> rfl

/-- An advance that is granted replaces one record, if no call of the file system fails. -/
theorem advance_of_granted {doc : Document} {record : Record} {job next : Job}
    (hdoc : l.document = .ok doc) (hget : doc.get? id.toText = some record)
    (hjob : Job.ofRecord record now = .ok job) (hnext : job.advance s policy now = .ok next)
    (hquiet : ¬(advance l id s policy now).1.IsDiskFailure) :
    (advance l id s policy now).1 = .success (Report.advanced id next) ∧
      (advance l id s policy now).2.path = l.path ∧
      (advance l id s policy now).2.document = .ok (doc.insert id.toText next.toRecord) := by
  rw [advance_eq_store hdoc hget hjob hnext] at hquiet ⊢
  rcases FileLedger.document_store l (doc.insert id.toText next.toRecord) with
    ⟨e, hstore⟩ | ⟨hstore, hnew, -⟩
  · rw [hstore] at hquiet
    exact absurd ⟨e, rfl⟩ hquiet
  · rw [hstore]
    exact ⟨rfl, l.path_store _, hnew⟩

/-- An advance that is not granted changes nothing. -/
theorem advance_of_not_granted (h : ¬∃ doc record job next, l.document = .ok doc ∧
      doc.get? id.toText = some record ∧ Job.ofRecord record now = .ok job ∧
      job.advance s policy now = .ok next) :
    ∃ reason, advance l id s policy now = (.refusal "" reason, l) := by
  unfold advance
  cases hread : Ledger.snapshot l id now with
  | error e => exact ⟨_, rfl⟩
  | ok shown =>
    cases hnext : shown.job.advance s policy now with
    | error e =>
      simp only [hnext]
      exact ⟨_, rfl⟩
    | ok next =>
      obtain ⟨hget, hjob⟩ := Ledger.snapshot_eq_ok_iff.1 hread
      obtain ⟨doc, hdoc, hrecord⟩ := Except.map_eq_ok_iff.1 hget
      exact absurd ⟨doc, shown.record, shown.job, next, hdoc, hrecord, hjob, hnext⟩ h

end Open

-- ════════════════════════════════════════════════════════════════════════
-- Command lines that advance a job
-- ════════════════════════════════════════════════════════════════════════

/-- The path of the ledger that a command line uses: the one that it names, or else the one of the
environment unless it is empty or no text, or else the one of the settings. -/
def ledgerPath (args : List String) (environment : Environment) (file : Settings) : Path :=
  .ofText (((given "store" args).or ((Environment.text? environment.storePath).filter (· ≠ ""))).getD
    file.storePath)

/-- Whether a command line may advance a job of a document to a stage. -/
structure Grants (args : List String) (file : Settings) (w : World) (id : JobId) (stage : Stage)
    (doc : Document) (job : Job) : Prop where
  document : (FileLedger.mk (ledgerPath args w.environment file) w.disk).document = .ok doc
  record : ∃ record, doc.get? id.toText = some record ∧ Job.ofRecord record w.now = .ok job
  required : ∀ x, stage.rule x = .required →
    ∃ text, given x.optionName args = some text ∧ Text.isBlank text = false
  forbidden : ∀ x, stage.rule x = .forbidden → (given x.optionName args).getD "" = ""
  order : isFlagged "forward-only" args ∨ file.forwardOnly = true → job.stage ≤ stage

/-- The texts of the record that a command line leaves: the services as they were, the stage, the
session key, and the other artifacts that the options give unless they are empty. -/
def advancedText (args : List String) (services : Job.Services) (stage : Stage) :
    Record.Key → Option String
  | .exportService => some services.exportService
  | .importService => some services.importService
  | .dataType => some services.dataType
  | .stage => some stage.name
  | .artifact .sessionKey => given "session-key" args
  | .artifact x => (given x.optionName args).filter (· ≠ "")

section Lines

variable {args : List String} {w : World} {r : Request} {id : JobId} {a : Advance} {file : Settings}

/-- A command line advances a job on the ledger that it uses, with a submission that says what its
options say. -/
theorem run_eq_advance (hparse : parse args = .ok r) (haction : r.action = .advance id a)
    (hfile : Settings.ofDisk w.disk = .ok file)
    (hlog : r.canLog file w.environment = true) : ∃ s policy,
      s.stage = a.stage ∧ (∀ x, s.get x = given x.optionName args) ∧
      (policy = .forwardOnly ↔ isFlagged "forward-only" args ∨ file.forwardOnly = true) ∧
      run args w = ((advance ⟨ledgerPath args w.environment file, w.disk⟩ id s policy w.now).1,
        (advance ⟨ledgerPath args w.environment file, w.disk⟩ id s policy w.now).2.disk) := by
  obtain ⟨hstore, hforward, -, htext⟩ := parse_advance hparse haction
  have hload := Settings.load_of_ofDisk hfile w.environment
  generalize hsettings : { file with storePath :=
    ((Environment.text? w.environment.storePath).filter (· ≠ "")).getD file.storePath } = settings
    at hload
  refine ⟨a.toSubmission, r.policy settings, a.stage_toSubmission, htext, ?_, ?_⟩
  · rw [← hforward, Request.policy, Settings.policy, ← hsettings]
    cases r.forwardOnly <;> cases file.forwardOnly <;> simp
  · have hcan : r.canLog settings w.environment = true := by
      rw [← hsettings]
      exact hlog
    have hpath : r.ledgerPath settings = ledgerPath args w.environment file := by
      rw [Request.ledgerPath, ledgerPath, hstore, ← hsettings, Option.getD_or]
    rw [run, hparse]
    simp only [hload, hcan, if_true, perform, haction, hpath]
    rfl

/-- A run whose log level cannot be used is broken off before it does anything. -/
theorem run_of_not_canLog (hparse : parse args = .ok r) (hfile : Settings.ofDisk w.disk = .ok file)
    (hlog : r.canLog file w.environment = false) : run args w = (.brokenOff, w.disk) := by
  have hload := Settings.load_of_ofDisk hfile w.environment
  have hcan : ∀ path, r.canLog { file with storePath := path } w.environment = false :=
    fun _ => hlog
  rw [run, hparse]
  simp only [hload, hcan]
  rfl

/-- What a command line needs is what the ledger asks for. -/
theorem grants_iff {s : Submission} {policy : Policy} {doc : Document} {job : Job}
    (htext : ∀ x, s.get x = given x.optionName args)
    (hpolicy : policy = .forwardOnly ↔ isFlagged "forward-only" args ∨ file.forwardOnly = true) :
    Grants args file w id s.stage doc job ↔
      (FileLedger.mk (ledgerPath args w.environment file) w.disk).document = .ok doc ∧
      (∃ record, doc.get? id.toText = some record ∧ Job.ofRecord record w.now = .ok job) ∧
      s.check = .ok () ∧ ¬(policy = .forwardOnly ∧ s.stage < job.stage) := by
  simp only [Submission.check_eq_ok_iff, Submission.breaks_eq_false_iff, htext, forall_and]
  constructor
  · intro h
    refine ⟨h.document, h.record, ⟨h.required, h.forbidden⟩, fun hback => ?_⟩
    exact absurd hback.2 (Nat.not_lt_of_le (h.order (hpolicy.1 hback.1)))
  · rintro ⟨hdoc, hrecord, ⟨hrequired, hforbidden⟩, horder⟩
    refine ⟨hdoc, hrecord, hrequired, hforbidden, fun hforward => ?_⟩
    exact Stage.le_of_not_lt fun hlt => horder ⟨hpolicy.2 hforward, hlt⟩

/-- A job whose authorization was made of the options has the record that the options describe. -/
theorem holds_advancedText {s : Submission} {next : Job}
    (htext : ∀ x, s.get x = given x.optionName args) (hstage : next.stage = s.stage)
    (hkeyed : next.authorization.isUnkeyed = false)
    (hget : ∀ x, (next.authorization.get x).map (·.text) = (s.get x).filter (· ≠ "")) :
    next.toRecord.Holds (advancedText args next.services s.stage) := by
  refine next.holds_toRecord.congr fun k => ?_
  cases k with
  | exportService | importService | dataType => rfl
  | stage => rw [Job.textUnder, advancedText, hstage]
  | artifact x =>
    have hx := hget x
    rw [htext] at hx
    cases x with
    | sessionKey =>
      obtain ⟨key, hkey⟩ := Authorization.exists_sessionKey hkeyed
      rw [hkey] at hx
      have hgiven := Option.filter_eq_some_iff.1 hx.symm
      rw [Job.textUnder, advancedText, hkey, Option.elim_some]
      exact hgiven.1.symm
    | exportAuthData | importAuthData | publicKey | privateKey => exact hx

section Submitted

variable {s : Submission} {policy : Policy}

/-- The submission of a command line that may advance a job makes another job of it. -/
theorem Grants.exists_next (htext : ∀ x, s.get x = given x.optionName args)
    (hpolicy : policy = .forwardOnly ↔ isFlagged "forward-only" args ∨ file.forwardOnly = true)
    {doc : Document} {job : Job} (h : Grants args file w id s.stage doc job) : ∃ next,
      job.advance s policy w.now = .ok next ∧ next.stage = s.stage ∧
      next.toRecord.Holds (advancedText args job.services s.stage) := by
  obtain ⟨-, -, hcheck, horder⟩ := (grants_iff htext hpolicy).1 h
  obtain ⟨auth, hjudge, hkeyed, hstage, hauth⟩ := Submission.exists_judge hcheck horder
  obtain ⟨next, hnext, hservices, rfl⟩ : ∃ next, job.advance s policy w.now = .ok next ∧
      next.services = job.services ∧ next.authorization = auth := by
    rw [Job.advance_eq, hjudge]
    exact ⟨_, rfl, rfl, rfl⟩
  refine ⟨next, hnext, hstage, ?_⟩
  rw [← hservices]
  exact holds_advancedText htext hstage hkeyed hauth

/-- The ledger advances a job that the command line may advance. -/
theorem advance_of_grants (htext : ∀ x, s.get x = given x.optionName args)
    (hpolicy : policy = .forwardOnly ↔ isFlagged "forward-only" args ∨ file.forwardOnly = true)
    {l : FileLedger} (hl : l = ⟨ledgerPath args w.environment file, w.disk⟩)
    (hquiet : ¬(advance l id s policy w.now).1.IsDiskFailure) {doc : Document} {job : Job}
    (h : Grants args file w id s.stage doc job) :
    (advance l id s policy w.now).1
        = .success ("  ✓ Job " ++ id.toText ++ " now at " ++ s.stage.name ++ "\n") ∧
      ∃ record, record.Holds (advancedText args job.services s.stage) ∧
        (FileLedger.mk l.path (advance l id s policy w.now).2.disk).document
          = .ok (doc.insert id.toText record) := by
  have hdoc := h.document
  rw [← hl] at hdoc
  obtain ⟨record, hget, hjob⟩ := h.record
  obtain ⟨next, hnext, hstage, hholds⟩ := h.exists_next htext hpolicy
  obtain ⟨hreport, hpath, hnew⟩ := advance_of_granted hdoc hget hjob hnext hquiet
  refine ⟨?_, next.toRecord, hholds, ?_⟩
  · rw [hreport, Report.advanced, hstage]
  · rw [← hpath]
    exact hnew

/-- The ledger refuses to advance a job that the command line may not advance. -/
theorem advance_of_not_grants (htext : ∀ x, s.get x = given x.optionName args)
    (hpolicy : policy = .forwardOnly ↔ isFlagged "forward-only" args ∨ file.forwardOnly = true)
    {l : FileLedger} (hl : l = ⟨ledgerPath args w.environment file, w.disk⟩)
    (h : ¬∃ doc job, Grants args file w id s.stage doc job) :
    ∃ reason, advance l id s policy w.now = (.refusal "" reason, l) := by
  refine advance_of_not_granted ?_
  rintro ⟨doc, record, job, next, hdoc, hget, hjob, hnext⟩
  rw [Job.advance_eq] at hnext
  obtain ⟨auth, hjudge, -⟩ := Except.map_eq_ok_iff.1 hnext
  obtain ⟨hcheck, horder, -⟩ := Submission.judge_eq_ok_iff.1 hjudge
  rw [hl] at hdoc
  exact h ⟨doc, job, (grants_iff htext hpolicy).2 ⟨hdoc, ⟨record, hget, hjob⟩, hcheck, horder⟩⟩

end Submitted

/-- A command line that may advance a job reports no failure if nothing hinders the file system. -/
theorem not_isDiskFailure_of_grants (hparse : parse args = .ok r)
    (haction : r.action = .advance id a) (hfile : Settings.ofDisk w.disk = .ok file)
    (hlog : r.canLog file w.environment = true)
    (hfree : (FileLedger.mk (ledgerPath args w.environment file) w.disk).IsUnhindered)
    {doc : Document} {job : Job} (h : Grants args file w id a.stage doc job) :
    ¬(run args w).1.IsDiskFailure := by
  obtain ⟨s, policy, hstage, htext, hpolicy, hrun⟩ := run_eq_advance hparse haction hfile hlog
  rw [← hstage] at h
  obtain ⟨record, hget, hjob⟩ := h.record
  obtain ⟨next, hnext, -⟩ := h.exists_next htext hpolicy
  have hstore := FileLedger.store_eq_ok hfree.1 hfree.2 (doc.insert id.toText next.toRecord)
  rw [hrun, advance_eq_store h.document hget hjob hnext, hstore]
  rintro ⟨e, he⟩
  cases congrArg Outcome.status he

/-- A command line that advances a job succeeds exactly if it may, and then replaces the record of
the job by the one that its options describe and touches nothing else in the document; otherwise it
leaves the disk as it is. This holds if the log level can be used and if no call of the file system
fails. -/
theorem run_advance (hparse : parse args = .ok r) (haction : r.action = .advance id a)
    (hfile : Settings.ofDisk w.disk = .ok file)
    (hlog : r.canLog file w.environment = true)
    (hquiet : ¬(run args w).1.IsDiskFailure) :
    (given "stage" args).bind stage? = some a.stage ∧
    ((run args w).1.status = 0 ↔ ∃ doc job, Grants args file w id a.stage doc job) ∧
    (∀ doc job, Grants args file w id a.stage doc job →
      (run args w).1 = .success ("  ✓ Job " ++ id.toText ++ " now at " ++ a.stage.name ++ "\n") ∧
      ∃ record, record.Holds (advancedText args job.services a.stage) ∧
        (FileLedger.mk (ledgerPath args w.environment file) (run args w).2).document
          = .ok (doc.insert id.toText record)) ∧
    ((¬∃ doc job, Grants args file w id a.stage doc job) →
      (run args w).1.status = 1 ∧ (run args w).1.output = "" ∧ (run args w).2 = w.disk) := by
  obtain ⟨s, policy, hstage, htext, hpolicy, hrun⟩ := run_eq_advance hparse haction hfile hlog
  rw [← hstage]
  have hgranted : ∀ doc job, Grants args file w id s.stage doc job →
      (run args w).1 = .success ("  ✓ Job " ++ id.toText ++ " now at " ++ s.stage.name ++ "\n") ∧
      ∃ record, record.Holds (advancedText args job.services s.stage) ∧
        (FileLedger.mk (ledgerPath args w.environment file) (run args w).2).document
          = .ok (doc.insert id.toText record) := by
    intro doc job h
    rw [hrun] at hquiet ⊢
    exact advance_of_grants htext hpolicy rfl hquiet h
  have hrefused : (¬∃ doc job, Grants args file w id s.stage doc job) →
      (run args w).1.status = 1 ∧ (run args w).1.output = "" ∧ (run args w).2 = w.disk := by
    intro h
    obtain ⟨reason, hreason⟩ := advance_of_not_grants htext hpolicy rfl h
    rw [hrun, hreason]
    exact ⟨rfl, rfl, rfl⟩
  obtain ⟨-, -, hoption, -⟩ := parse_advance hparse haction
  rw [← hstage] at hoption
  refine ⟨hoption, ⟨fun hstatus => ?_, ?_⟩, hgranted, hrefused⟩
  · by_contra h
    rw [(hrefused h).1] at hstatus
    cases hstatus
  · rintro ⟨doc, job, h⟩
    rw [(hgranted doc job h).1]
    rfl

end Lines

-- ════════════════════════════════════════════════════════════════════════
-- A job that waits for its key
-- ════════════════════════════════════════════════════════════════════════

/-- A document with a new job. -/
def waiting : Document := Table.empty.insert (JobId.toText default) (default : Job).toRecord

/-- A disk with this document in the working directory. -/
def waitingDisk : Disk := ⟨Table.empty.insert ["jobs.json"] (.file waiting.toText.toUTF8)⟩

/-- Settings with a log level that cannot be used. -/
def shiftedSettings : String := "log_level = \" é=info\"\n"

/-- The disk with a file that makes these settings. -/
def shiftedDisk : Disk :=
  ⟨waitingDisk.nodes.insert ["transferjob.toml"] (.file shiftedSettings.toUTF8)⟩

/-- A command line that gives the job a session key. -/
def waitingArgs : List String :=
  ["advance", "00000000-0000-0000-0000-000000000000", "--stage", "initial", "--session-key=1"]

def waitingRequest : Request :=
  ⟨.advance default ⟨.initial, some "1", none, none, none, none⟩, none, false, false⟩

theorem parse_waitingArgs : parse waitingArgs = .ok waitingRequest := by
  have hoption : (parse waitingArgs).toOption = some waitingRequest := by decide +kernel
  cases hparse : parse waitingArgs with
  | error halt =>
    rw [hparse] at hoption
    cases hoption
  | ok r =>
    rw [hparse] at hoption
    rw [Option.some.inj hoption]

theorem ledgerPath_waitingArgs {e : Environment} (he : Environment.text? e.storePath = none)
    {file : Settings} (hpath : file.storePath = "jobs.json") :
    ledgerPath waitingArgs e file = ⟨["jobs.json"]⟩ := by
  have hgiven : given "store" waitingArgs = none := by decide
  rw [ledgerPath, hgiven, he, hpath]
  rfl

/-- The job waits on every disk that shows the document. -/
theorem grants_waiting {d : Disk} (hd : d.Shows ⟨["jobs.json"]⟩ waiting) {e : Environment}
    (he : Environment.text? e.storePath = none) {file : Settings}
    (hpath : file.storePath = "jobs.json") :
    Grants waitingArgs file ⟨d, e, default, default⟩ default .initial waiting default := by
  constructor
  case document =>
    rw [ledgerPath_waitingArgs he hpath]
    exact Disk.shows_iff.1 hd
  case record =>
    exact ⟨_, Table.get?_insert_self _ _ _, (default : Job).ofRecord_toRecord default⟩
  case required =>
    intro x hrule
    cases x with
    | sessionKey => exact ⟨"1", by decide, by decide⟩
    | exportAuthData | importAuthData | publicKey | privateKey => cases hrule
  case forbidden =>
    intro x hrule
    cases x with
    | sessionKey => cases hrule
    | exportAuthData | importAuthData | publicKey | privateKey => decide
  case order =>
    intro _
    exact Stage.le_refl _

theorem shows_waiting {d : Disk} (hlocate : d.locate ⟨["jobs.json"]⟩ = .ok ["jobs.json"])
    (hnode : d.node? ["jobs.json"] = some (.file waiting.toText.toUTF8)) :
    d.Shows ⟨["jobs.json"]⟩ waiting :=
  Disk.shows_of_node? hlocate (by decide) hnode

/-- An environment that asks for warnings, and whose path of the ledger is no text. -/
def warningsOnly : Environment := ⟨some ⟨#[0x6A, 0xFF]⟩, some "warn".toUTF8⟩

/-- The job is given its key, and nothing else is in the record. -/
theorem run_advance_waiting :
    parse waitingArgs = .ok waitingRequest ∧ Settings.ofDisk waitingDisk = .ok .default ∧
    waitingRequest.canLog .default warningsOnly = true ∧
    ¬(run waitingArgs ⟨waitingDisk, warningsOnly, default, default⟩).1.IsDiskFailure ∧
    Grants waitingArgs .default ⟨waitingDisk, warningsOnly, default, default⟩ default .initial waiting
      default ∧
    (run waitingArgs ⟨waitingDisk, warningsOnly, default, default⟩).1.status = 0 ∧
    ∃ record, record.Holds (advancedText waitingArgs default .initial) ∧
      (FileLedger.mk (ledgerPath waitingArgs warningsOnly .default)
        (run waitingArgs ⟨waitingDisk, warningsOnly, default, default⟩).2).document
        = .ok (waiting.insert (JobId.toText default) record) := by
  have hfile : Settings.ofDisk waitingDisk = .ok .default := rfl
  have hlog : waitingRequest.canLog .default warningsOnly = true := by decide +kernel
  have hpath : Environment.text? warningsOnly.storePath = none := by decide +kernel
  have hgrants : Grants waitingArgs .default ⟨waitingDisk, warningsOnly, default, default⟩ default
      .initial waiting default := grants_waiting (shows_waiting rfl rfl) hpath rfl
  have hfree : (FileLedger.mk (ledgerPath waitingArgs warningsOnly .default)
      waitingDisk).IsUnhindered := by
    rw [ledgerPath_waitingArgs hpath rfl]
    exact FileLedger.isUnhindered_of_node? (by decide) (by decide)
  have hquiet := not_isDiskFailure_of_grants (w := ⟨waitingDisk, warningsOnly, default, default⟩)
    parse_waitingArgs rfl hfile hlog hfree hgrants
  obtain ⟨-, hstatus, hnew, -⟩ := run_advance
    (w := ⟨waitingDisk, warningsOnly, default, default⟩) parse_waitingArgs rfl hfile hlog hquiet
  exact ⟨parse_waitingArgs, hfile, hlog, hquiet, hgrants, hstatus.2 ⟨_, _, hgrants⟩,
    (hnew _ _ hgrants).2⟩

/-- With a log level that cannot be used the job is not given its key, although it may be, whether the
log level comes from the settings or from the environment. -/
theorem status_run_shifted :
    parse waitingArgs = .ok waitingRequest ∧
    Settings.ofDisk shiftedDisk = .ok ⟨"jobs.json", " é=info", false⟩ ∧
    Grants waitingArgs ⟨"jobs.json", " é=info", false⟩ ⟨shiftedDisk, .empty, default, default⟩ default
      .initial waiting default ∧
    ¬(run waitingArgs ⟨shiftedDisk, .empty, default, default⟩).1.IsDiskFailure ∧
    (run waitingArgs ⟨shiftedDisk, .empty, default, default⟩).1.status = 101 ∧
    Settings.ofDisk waitingDisk = .ok .default ∧
    (run waitingArgs ⟨waitingDisk, ⟨none, some " é=info".toUTF8⟩, default, default⟩).1.status = 101 := by
  have hplace : shiftedDisk.locate Settings.path = .ok ["transferjob.toml"] := rfl
  have hnode : shiftedDisk.node? ["transferjob.toml"] = some (.file shiftedSettings.toUTF8) := rfl
  have hfile : Settings.ofDisk shiftedDisk = .ok ⟨"jobs.json", " é=info", false⟩ := by
    have hread := Disk.readText_of_node? hplace (by decide) hnode
    have htext : Settings.ofText? shiftedSettings = some ⟨"jobs.json", " é=info", false⟩ := by
      decide +kernel
    rw [Settings.ofDisk, if_pos (Disk.contains_of_node? hplace (by decide) hnode)]
    simp only [hread, htext]
  have hdefault : Settings.ofDisk waitingDisk = .ok .default := rfl
  have hlog : waitingRequest.canLog ⟨"jobs.json", " é=info", false⟩ .empty = false := by
    decide +kernel
  have hlog' : waitingRequest.canLog .default ⟨none, some " é=info".toUTF8⟩ = false := by
    decide +kernel
  have hrun := run_of_not_canLog (w := ⟨shiftedDisk, .empty, default, default⟩) parse_waitingArgs
    hfile hlog
  have hrun' := run_of_not_canLog
    (w := ⟨waitingDisk, ⟨none, some " é=info".toUTF8⟩, default, default⟩) parse_waitingArgs hdefault
    hlog'
  refine ⟨parse_waitingArgs, hfile, grants_waiting (shows_waiting rfl rfl) rfl rfl, ?_, ?_, hdefault,
    ?_⟩
  · rw [hrun]
    rintro ⟨e, he⟩
    cases congrArg Outcome.status he
  · rw [hrun]
    rfl
  · rw [hrun']
    rfl

end Command

end EscrowLedger
