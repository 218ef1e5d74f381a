import EscrowLedger.Proofs.Escrow.Conversion
import EscrowLedger.Proofs.Job.Restoration

/-!
# What is wrong with a record

A record from elsewhere may have several defects at once. It may lack keys, name a stage that there
is not, and have artifacts that do not fit the stage. All of them are listed here, each for itself
and in a fixed order, and reading the record reports the first one on the list.

A record can be read if nothing is on the list. That is also told without the list: the five keys are
there without which no record is read, the name of the stage is that of a stage, and the artifacts
either follow the rules of the stage or are those of a new job. Keys that are not known do not matter,
and the time of reading only turns up in the times of the job.

## Main definitions

* `Record.submission` — the artifacts of a record.
* `Record.defects` — everything that is wrong with a record, in the order in which it is reported.
* `Record.IsReadable` — what a record must be like to be read.

## Main statements

* `Job.exists_ofRecord_iff` — which records can be read.
* `Job.ofRecord_eq_error_iff` — what is reported of the others.
* `Job.ofRecord_judged` — both, and what they rest on.
-/

namespace EscrowLedger

namespace Submission

/-- What is reported of a submission, if anything is. -/
theorem check_eq_error_iff_find? {s : Submission} {v : Violation} : s.check = .error v ↔
    (Artifact.all.find? (s.Violates ·)).map (fun a => ⟨s.stage, a, s.stage.rule a⟩) = some v := by
  have hbreaks : (fun a => decide (s.Violates a)) = s.breaks := by
    funext a
    rw [Bool.eq_iff_iff, decide_eq_true_iff, breaks_iff]
  rw [hbreaks, check]
  cases Artifact.all.find? s.breaks <;> simp

end Submission

namespace Record

/-- The keys that a record must have. -/
def mandatory : List Key := [.exportService, .importService, .dataType, .stage, .artifact .sessionKey]

/-- The artifacts of a record, as a submission for a stage. -/
def submission (r : Record) (stage : Stage) : Submission :=
  .ofTexts stage fun a => r.value? (.artifact a)

/-- The absence of a key, if the record does not have it. -/
def lacks (r : Record) (k : Key) : List JobError :=
  match r.value? k with
  | some _ => []
  | none => [.missingField k.text]

/-- The name of a stage, if it is that of none. -/
def misnames (r : Record) : List JobError :=
  match r.value? .stage with
  | some name => if name ∈ Stage.all.map Stage.name then [] else [.unknownStage name]
  | none => []

/-- The artifacts that break the rules of the stage, unless they are those of a new job. -/
def misfits (r : Record) : List JobError :=
  match r.stage? with
  | some stage =>
    if (r.submission stage).DescribesNew then []
    else (Artifact.all.filter ((r.submission stage).Violates ·)).map fun a =>
      .invalidAuthorization ⟨stage, a, stage.rule a⟩
  | none => []

/-- Everything that is wrong with a record, in the order in which it is reported. -/
def defects (r : Record) : List JobError :=
  r.lacks .exportService ++ (r.lacks .importService ++ (r.lacks .dataType ++ (r.lacks .stage ++
    (r.misnames ++ (r.lacks (.artifact .sessionKey) ++ r.misfits)))))

/-- What a record must be like to be read. -/
structure IsReadable (r : Record) : Prop where
  mandatory : ∀ k ∈ Record.mandatory, ∃ text, r.value? k = some text
  /-- The name of the stage is that of a stage, and the artifacts follow its rules or are those of a
  new job. -/
  artifacts : ∃ stage : Stage, r.value? .stage = some stage.name ∧
    ((∀ a, ¬(r.submission stage).Violates a) ∨ (r.submission stage).DescribesNew)

variable {r : Record}

@[simp] theorem stage_submission (r : Record) (stage : Stage) :
    (r.submission stage).stage = stage := rfl

@[simp] theorem get_submission (r : Record) (stage : Stage) (a : Artifact) :
    (r.submission stage).get a = r.value? (.artifact a) :=
  Submission.get_ofTexts _ _ a

theorem submissionOfRecord_eq {key : String} (h : r.value? (.artifact .sessionKey) = some key)
    (stage : Stage) : Job.submissionOfRecord r stage key = r.submission stage := by
  refine Submission.ext_get ?_ fun a => ?_
  · rw [Job.stage_submissionOfRecord, stage_submission]
  · rw [Job.get_submissionOfRecord, get_submission]
    split
    · next ha => rw [ha, h]
    · rfl

end Record

namespace Authorization

/-- A submission is accepted if it breaks no rule or describes a new job. -/
theorem exists_ofSubmission_iff_violates {s : Submission} :
    (∃ auth, ofSubmission s = .ok auth) ↔ (∀ a, ¬s.Violates a) ∨ s.DescribesNew := by
  by_cases hnew : s.DescribesNew
  · exact ⟨fun _ => .inr hnew, fun _ => ⟨_, ofSubmission_of_describesNew hnew⟩⟩
  · rw [exists_ofSubmission_iff hnew, Submission.check_eq_ok_iff, or_iff_left hnew]
    refine forall_congr' fun a => ?_
    rw [← Bool.not_eq_true, Submission.breaks_iff]

end Authorization

namespace Job

variable {r r' : Record} {reason : JobError}

/-- A key that is demanded is reported if it is absent. Otherwise what comes behind it counts. -/
theorem bind_demand_eq_error_iff {α : Type} {k : Record.Key} {f : String → Except JobError α}
    {rest : List JobError}
    (h : ∀ text, r.value? k = some text → (f text = .error reason ↔ rest.head? = some reason)) :
    r.demand k >>= f = .error reason ↔ (r.lacks k ++ rest).head? = some reason := by
  rw [Record.demand, Record.lacks]
  cases hk : r.value? k with
  | none =>
    change Except.error _ = Except.error reason ↔ some _ = some reason
    simp
  | some text => exact h text hk

/-- The artifacts of a record are reported if their submission is not accepted. -/
theorem head?_misfits_eq_some_iff {stage : Stage} (h : r.value? .stage = some stage.name) :
    r.misfits.head? = some reason ↔
      (Authorization.ofSubmission (r.submission stage)).mapError .invalidAuthorization
        = .error reason := by
  have hstage : r.stage? = some stage := by
    rw [Record.stage?, h, Option.bind_some, Stage.ofName?_name]
  rw [Record.misfits, hstage, Except.mapError_eq_error_iff]
  by_cases hnew : (r.submission stage).DescribesNew
  · simp only [if_pos hnew, Authorization.ofSubmission_of_describesNew hnew]
    simp
  · simp only [if_neg hnew, Authorization.ofSubmission_eq_error_iff hnew,
      Submission.check_eq_error_iff_find?, Record.stage_submission, List.head?_map,
      List.head?_filter, Option.map_eq_some_iff]
    constructor
    · rintro ⟨a, ha, rfl⟩
      exact ⟨_, ⟨a, ha, rfl⟩, rfl⟩
    · rintro ⟨_, ⟨a, ha, rfl⟩, rfl⟩
      exact ⟨a, ha, rfl⟩

/-- Of a record that cannot be read the first of its defects is reported. -/
theorem ofRecord_eq_error_iff {now : Instant} :
    ofRecord r now = .error reason ↔ r.defects.head? = some reason := by
  refine bind_demand_eq_error_iff fun exportService _ => ?_
  refine bind_demand_eq_error_iff fun importService _ => ?_
  refine bind_demand_eq_error_iff fun dataType _ => ?_
  refine bind_demand_eq_error_iff fun name hname => ?_
  rw [Record.misnames, hname]
  cases hstage : Stage.ofName? name with
  | none =>
    have hnone : name ∉ Stage.all.map Stage.name := by
      intro hmem
      obtain ⟨stage, -, rfl⟩ := List.mem_map.1 hmem
      rw [Stage.ofName?_name] at hstage
      cases hstage
    simp only [if_neg hnone]
    change Except.error _ = Except.error reason ↔ some _ = some reason
    simp
  | some stage =>
    obtain rfl := Stage.ofName?_eq_some_iff.1 hstage
    simp only [if_pos (List.mem_map_of_mem (Stage.mem_all stage)), List.nil_append]
    refine bind_demand_eq_error_iff fun key hkey => ?_
    rw [head?_misfits_eq_some_iff hname, Record.submissionOfRecord_eq hkey]
    cases Authorization.ofSubmission (r.submission stage) with
    | error violation =>
      constructor
      · rintro ⟨⟩
        rfl
      · rintro ⟨⟩
        rfl
    | ok auth =>
      constructor
      · rintro ⟨⟩
      · rintro ⟨⟩

theorem exists_ofRecord_iff {now : Instant} : (∃ j, ofRecord r now = .ok j) ↔ r.IsReadable := by
  constructor
  · rintro ⟨j, h⟩
    obtain ⟨services, stage, key, auth, hexport, himport, hdata, hname, hkey, hauth, -⟩ :=
      ofRecord_eq_ok_iff.1 h
    rw [Record.submissionOfRecord_eq hkey] at hauth
    refine ⟨?_, stage, hname, Authorization.exists_ofSubmission_iff_violates.1 ⟨auth, hauth⟩⟩
    simp [Record.mandatory, hexport, himport, hdata, hname, hkey]
  · intro h
    have hall := h.mandatory
    simp only [Record.mandatory, List.forall_mem_cons] at hall
    obtain ⟨⟨exportService, hexport⟩, ⟨importService, himport⟩, ⟨dataType, hdata⟩, -,
      ⟨key, hkey⟩, -⟩ := hall
    obtain ⟨stage, hname, hartifacts⟩ := h.artifacts
    obtain ⟨auth, hauth⟩ := Authorization.exists_ofSubmission_iff_violates.2 hartifacts
    rw [← Record.submissionOfRecord_eq hkey] at hauth
    exact ⟨_, ofRecord_eq_ok_iff.2 ⟨⟨exportService, importService, dataType⟩, stage, key, auth,
      hexport, himport, hdata, hname, hkey, hauth, rfl⟩⟩

theorem ofRecord_congr (h : ∀ k : Record.Key, r.value? k = r'.value? k) (now : Instant) :
    ofRecord r now = ofRecord r' now := by
  simp only [ofRecord, Record.demand, submissionOfRecord, h]

/-- Another time of reading gives the same job with other times, or the same report. -/
theorem ofRecord_at (r : Record) (now later : Instant) : ofRecord r later
      = (ofRecord r now).map fun j => restore j.services j.authorization later := by
  cases h : ofRecord r now with
  | error reason => exact ofRecord_eq_error_iff.2 (ofRecord_eq_error_iff.1 h)
  | ok j =>
    obtain ⟨services, stage, key, auth, hexport, himport, hdata, hname, hkey, hauth, rfl⟩ :=
      ofRecord_eq_ok_iff.1 h
    exact ofRecord_eq_ok_iff.2
      ⟨services, stage, key, auth, hexport, himport, hdata, hname, hkey, hauth, rfl⟩

/-- A record can be read exactly if it has the keys that every record must have, names a stage, and
has artifacts that follow the rules of this stage or are those of a new job. Otherwise the first of
its defects is reported: absent keys for services and data and for the stage, then an unknown name of
a stage, then an absent session key, then the artifacts that break a rule. Nothing but the known keys
matters, and the time of reading matters for nothing but the times of the job. -/
theorem ofRecord_judged :
    (∀ (r : Record) (now : Instant), (∃ j, ofRecord r now = .ok j) ↔ r.IsReadable) ∧
    (∀ (r : Record) (now : Instant) (reason : JobError),
      ofRecord r now = .error reason ↔ r.defects.head? = some reason) ∧
    (∀ (r r' : Record) (now : Instant), (∀ k : Record.Key, r.value? k = r'.value? k) →
      ofRecord r now = ofRecord r' now) ∧
    ∀ (r : Record) (now later : Instant), ofRecord r later
      = (ofRecord r now).map fun j => restore j.services j.authorization later :=
  ⟨fun _ _ => exists_ofRecord_iff, fun _ _ _ => ofRecord_eq_error_iff,
    fun _ _ now h => ofRecord_congr h now, ofRecord_at⟩

/-- A name that is that of no stage stands between the absent keys. -/
example : ((∅ : Record).set .stage "DONE").defects =
    [.missingField "EXPORT_SERVICE", .missingField "IMPORT_SERVICE", .missingField "DATA_TYPE",
      .unknownStage "DONE", .missingField "ENCRYPTED_SESSION_KEY"] := by
  decide

end Job

end EscrowLedger
