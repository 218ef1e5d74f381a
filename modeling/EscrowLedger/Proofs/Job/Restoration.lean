import EscrowLedger.Proofs.Escrow.Assignment
import EscrowLedger.Proofs.Job.Record
import EscrowLedger.Proofs.Results

/-!
# Jobs come back from their records

A record is read back as a job with the services and the authorization that were written, whatever
they are; the job counts as new and as made at the time of reading. A record from elsewhere may have
other keys and blank texts besides, but the job that is read from it has the stage that the record
names.

## Main definitions

* `Record.stage?` — the stage that a record names.

## Main statements

* `Authorization.stage_of_ofSubmission` — an authorization has the stage of its submission.
* `Job.ofRecord_eq_ok_iff` — which job is read from a record.
* `Job.ofRecord_toRecord` — the record of a job is read back.
* `Job.toRecord_keeps` — records differ exactly if services or authorizations do.
* `Job.stage?_of_ofRecord`, `Job.stage?_toRecord` — records name the stages of their jobs.
-/

namespace EscrowLedger

namespace Authorization

theorem bind_eq_ok_iff {α β : Type} {x : StateT Submission (Except Violation) α}
    {f : α → StateT Submission (Except Violation) β} {s : Submission} {r : β × Submission} :
    (x >>= f) s = .ok r ↔ ∃ p, x s = .ok p ∧ f p.1 p.2 = .ok r :=
  Except.bind_eq_ok_iff

/-- What is put together for a stage has that stage. -/
theorem stage_of_assemble {stage' : Stage} {s : Submission} {r : Authorization × Submission}
    (h : assemble stage' s = .ok r) : r.1.stage = stage' := by
  obtain ⟨⟨key, s₁⟩, -, h⟩ := bind_eq_ok_iff.1 h
  cases stage' with
  | initial | credsAvailable =>
    cases h
    rfl
  | credsEncryptionKeyGenerated =>
    obtain ⟨⟨publicKey, s₂⟩, -, h⟩ := bind_eq_ok_iff.1 h
    obtain ⟨⟨privateKey, s₃⟩, -, h⟩ := bind_eq_ok_iff.1 h
    cases h
    rfl
  | credsEncrypted =>
    obtain ⟨⟨publicKey, s₂⟩, -, h⟩ := bind_eq_ok_iff.1 h
    obtain ⟨⟨privateKey, s₃⟩, -, h⟩ := bind_eq_ok_iff.1 h
    obtain ⟨⟨exportAuthData, s₄⟩, -, h⟩ := bind_eq_ok_iff.1 h
    obtain ⟨⟨importAuthData, s₅⟩, -, h⟩ := bind_eq_ok_iff.1 h
    cases h
    rfl

theorem stage_of_ofSubmission {s : Submission} {auth : Authorization}
    (h : ofSubmission s = .ok auth) : auth.stage = s.stage := by
  rw [ofSubmission] at h
  split at h
  · next hunkeyed =>
    obtain rfl := Except.ok.inj h
    simp only [Submission.isUnkeyed, Bool.and_eq_true, decide_eq_true_eq] at hunkeyed
    exact hunkeyed.1.1.symm
  · obtain ⟨-, -, h⟩ := Except.bind_eq_ok_iff.1 h
    obtain ⟨r, hr, h⟩ := Except.bind_eq_ok_iff.1 h
    cases h
    exact stage_of_assemble hr

end Authorization

/-- The stage that a record names, if it names one. -/
def Record.stage? (r : Record) : Option Stage := (r.value? .stage).bind Stage.ofName?

namespace Job

-- ════════════════════════════════════════════════════════════════════════
-- What is read from a record
-- ════════════════════════════════════════════════════════════════════════

/-- A submission is filled from a record by assignments, the session key first. -/
theorem submissionOfRecord_eq_setAll (r : Record) (stage : Stage) (key : String) :
    submissionOfRecord r stage key = ((Submission.empty stage).set .sessionKey key).setAll
      (Submission.assignments (fun a => r.value? (.artifact a)) Artifact.optional) := by
  rw [← Submission.foldl_elim_set, submissionOfRecord]
  congr
  funext s a
  cases r.value? (.artifact a) <;> rfl

@[simp] theorem stage_submissionOfRecord (r : Record) (stage : Stage) (key : String) :
    (submissionOfRecord r stage key).stage = stage := by
  rw [submissionOfRecord_eq_setAll, Submission.stage_setAll]
  exact Submission.stage_put _ _ _

/-- The session key of a submission is given; the other artifacts are those of the record. -/
theorem get_submissionOfRecord (r : Record) (stage : Stage) (key : String) (a : Artifact) :
    (submissionOfRecord r stage key).get a
      = if a = .sessionKey then some key else r.value? (.artifact a) := by
  rw [submissionOfRecord_eq_setAll, Submission.get_setAll_assignments, Submission.get_set,
    Submission.get_empty]
  cases a <;> simp [Artifact.optional]

theorem demand_eq_ok_iff {r : Record} {k : Record.Key} {text : String} :
    r.demand k = .ok text ↔ r.value? k = some text := by
  rw [Record.demand]
  cases r.value? k <;> simp

theorem ofRecord_eq_ok_iff {r : Record} {now : Instant} {j : Job} :
    ofRecord r now = .ok j ↔ ∃ services stage key auth,
      r.value? .exportService = some services.exportService ∧
      r.value? .importService = some services.importService ∧
      r.value? .dataType = some services.dataType ∧
      r.value? .stage = some stage.name ∧ r.value? (.artifact .sessionKey) = some key ∧
      Authorization.ofSubmission (submissionOfRecord r stage key) = .ok auth ∧
      j = restore services auth now := by
  constructor
  · intro h
    obtain ⟨exportService, hexport, h⟩ := Except.bind_eq_ok_iff.1 h
    obtain ⟨importService, himport, h⟩ := Except.bind_eq_ok_iff.1 h
    obtain ⟨dataType, hdata, h⟩ := Except.bind_eq_ok_iff.1 h
    obtain ⟨name, hname, h⟩ := Except.bind_eq_ok_iff.1 h
    split at h
    · next stage hstage =>
      obtain rfl := Stage.ofName?_eq_some_iff.1 hstage
      obtain ⟨_, ⟨⟩, h⟩ := Except.bind_eq_ok_iff.1 h
      obtain ⟨key, hkey, h⟩ := Except.bind_eq_ok_iff.1 h
      obtain ⟨auth, hauth, h⟩ := Except.bind_eq_ok_iff.1 h
      exact ⟨⟨exportService, importService, dataType⟩, stage, key, auth,
        demand_eq_ok_iff.1 hexport, demand_eq_ok_iff.1 himport, demand_eq_ok_iff.1 hdata,
        demand_eq_ok_iff.1 hname, demand_eq_ok_iff.1 hkey, Except.mapError_eq_ok_iff.1 hauth,
        (Except.ok.inj h).symm⟩
    · cases h
  · rintro ⟨services, stage, key, auth, hexport, himport, hdata, hname, hkey, hauth, rfl⟩
    rw [ofRecord, demand_eq_ok_iff.2 hexport, demand_eq_ok_iff.2 himport, demand_eq_ok_iff.2 hdata,
      demand_eq_ok_iff.2 hname]
    simp only [bind, Except.bind, Stage.ofName?_name, pure, Except.pure, demand_eq_ok_iff.2 hkey,
      Except.mapError_eq_ok_iff.2 hauth]

theorem stage?_of_ofRecord {r : Record} {now : Instant} {j : Job} (h : ofRecord r now = .ok j) :
    r.stage? = some j.stage := by
  obtain ⟨services, stage, key, auth, -, -, -, hname, -, hauth, rfl⟩ := ofRecord_eq_ok_iff.1 h
  have hstage := Authorization.stage_of_ofSubmission hauth
  rw [stage_submissionOfRecord] at hstage
  rw [Record.stage?, hname, Option.bind_some, Stage.ofName?_name, ← hstage]
  rfl

@[simp] theorem stage?_toRecord (j : Job) : j.toRecord.stage? = some j.stage := by
  rw [Record.stage?, j.holds_toRecord.value?, textUnder, Option.bind_some, Stage.ofName?_name]

@[simp] theorem stageName_toRecord (j : Job) : j.toRecord.stageName = j.stage.name := by
  rw [Record.stageName, j.holds_toRecord.value?]
  rfl

-- ════════════════════════════════════════════════════════════════════════
-- Reading the record of a job
-- ════════════════════════════════════════════════════════════════════════

/-- The artifacts in the record of a job lead back to its authorization. -/
theorem ofSubmission_submissionOfRecord (j : Job) :
    Authorization.ofSubmission (submissionOfRecord j.toRecord j.stage
      ((j.authorization.get .sessionKey).elim "" (·.text))) = .ok j.authorization := by
  have hget : ∀ a, (submissionOfRecord j.toRecord j.stage
      ((j.authorization.get .sessionKey).elim "" (·.text))).get a = j.textUnder (.artifact a) := by
    intro a
    rw [get_submissionOfRecord, j.holds_toRecord.value?]
    cases a <;> rfl
  cases h : j.authorization.isUnkeyed with
  | true =>
    have hauth := Authorization.isUnkeyed_eq_true_iff.1 h
    have hsub : submissionOfRecord j.toRecord j.stage
        ((j.authorization.get .sessionKey).elim "" (·.text))
        = (Submission.empty .initial).set .sessionKey "" := by
      refine Submission.ext_get ?_ fun a => ?_
      · rw [stage_submissionOfRecord, stage, hauth]
        rfl
      · rw [hget]
        cases a <;> simp only [textUnder, hauth] <;> rfl
    rw [hsub, hauth]
    rfl
  | false =>
    have hsub : submissionOfRecord j.toRecord j.stage
        ((j.authorization.get .sessionKey).elim "" (·.text)) = j.authorization.toSubmission := by
      refine Submission.ext_get ?_ fun a => ?_
      · rw [stage_submissionOfRecord, Authorization.stage_toSubmission, stage]
      · rw [hget, Authorization.get_toSubmission]
        cases a with
        | sessionKey =>
          obtain ⟨key, hget⟩ := Authorization.exists_sessionKey h
          rw [textUnder, hget]
          rfl
        | exportAuthData | importAuthData | publicKey | privateKey => rfl
    rw [hsub, Authorization.ofSubmission_toSubmission]

/-- A job comes back from its record with its services and its authorization, as new and as made at
the time of reading. -/
theorem ofRecord_toRecord (j : Job) (now : Instant) :
    ofRecord j.toRecord now = .ok (restore j.services j.authorization now) := by
  have hvalue := j.holds_toRecord.value?
  exact ofRecord_eq_ok_iff.2 ⟨j.services, j.stage, _, j.authorization, hvalue _, hvalue _, hvalue _,
    hvalue _, hvalue _, j.ofSubmission_submissionOfRecord, rfl⟩

/-- The record of a job shows its services and its authorization only. -/
theorem toRecord_congr {j j' : Job} (hs : j.services = j'.services)
    (ha : j.authorization = j'.authorization) : j.toRecord = j'.toRecord := by
  unfold toRecord stage
  rw [hs, ha]

/-- A record shows the services and the authorization of its job in full: what is read from it has
both, and jobs that differ in one of them have different records. -/
theorem toRecord_keeps :
    (∀ (j : Job) (now : Instant), ∃ j', ofRecord j.toRecord now = .ok j' ∧
      j'.services = j.services ∧ j'.authorization = j.authorization ∧ j'.state = .new ∧
      j'.created = now ∧ j'.lastUpdate = now) ∧
    ∀ j j' : Job, j.toRecord = j'.toRecord ↔
      j.services = j'.services ∧ j.authorization = j'.authorization := by
  constructor
  · intro j now
    exact ⟨_, j.ofRecord_toRecord now, rfl, rfl, rfl, rfl, rfl⟩
  · intro j j'
    constructor
    · intro h
      have hread := j.ofRecord_toRecord default
      rw [h, ofRecord_toRecord] at hread
      have hjob := Except.ok.inj hread
      exact ⟨(congrArg Job.services hjob).symm, (congrArg Job.authorization hjob).symm⟩
    · rintro ⟨hs, ha⟩
      exact toRecord_congr hs ha

end Job

end EscrowLedger
