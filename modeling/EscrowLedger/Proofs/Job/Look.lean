import EscrowLedger.Proofs.Escrow.Look
import EscrowLedger.Proofs.Job.Defects
import EscrowLedger.Proofs.Job.Draft

/-!
# What jobs and records look like

Whether a submission to a job is granted, and whether a record is read, rests on what the artifacts
look like, and so does the reason why not. What comes of it looks alike, too: the jobs have the same
stage, the same artifacts present, and records with the same names.

In a record the session key that is absent is told from one that is empty, since only the latter can
be read.

## Main definitions

* `Record.names` — the names of a record, in order.
* `Record.LooksLike`, `Job.LooksLike`, `Draft.LooksLike` — differing in the text of artifacts at most.

## Main statements

* `Submission.LooksLike.submit`, `Submission.LooksLike.advance` — submissions to drafts and jobs.
* `Record.LooksLike.ofRecord` — jobs that are read.
* `Job.LooksLike.toRecord` — records that are written.
-/

namespace EscrowLedger

-- ════════════════════════════════════════════════════════════════════════
-- The names of a record
-- ════════════════════════════════════════════════════════════════════════

namespace Record

/-- The names of a record, in order. -/
def names (r : Record) : List String := r.entries.map (·.1)

theorem names_eq {r r' : Record} (h : ∀ name, r.contains name = r'.contains name) :
    r.names = r'.names := by
  have hunits : r.mapValues (fun _ => ()) = r'.mapValues (fun _ => ()) := by
    refine Table.ext_get? fun name => ?_
    have hname := h name
    rw [Table.contains, Table.contains] at hname
    rw [Table.get?_mapValues, Table.get?_mapValues]
    cases hget : r.get? name <;> cases hget' : r'.get? name <;> simp_all
  have hnames : ∀ r : Record, (r.mapValues fun _ => ()).entries.map (·.1) = r.names := by
    intro r
    rw [Table.mapValues, List.map_map]
    rfl
  rw [← hnames, ← hnames, hunits]

/-- Whether two records differ in the text of artifacts at most, the artifacts look alike, and both
or neither have a session key. -/
structure LooksLike (r r' : Record) : Prop where
  plain : ∀ name, (∀ a, (Key.artifact a).text ≠ name) → r.get? name = r'.get? name
  look : ∀ a, Look.ofText? (r.value? (.artifact a)) = Look.ofText? (r'.value? (.artifact a))
  sessionKey : (r.value? (.artifact .sessionKey)).isSome = (r'.value? (.artifact .sessionKey)).isSome

theorem LooksLike.refl (r : Record) : r.LooksLike r := ⟨fun _ _ => rfl, fun _ => rfl, rfl⟩

end Record

-- ════════════════════════════════════════════════════════════════════════
-- Jobs
-- ════════════════════════════════════════════════════════════════════════

namespace Job

theorem contains_toRecord {j : Job} {name : String} :
    j.toRecord.contains name = true ↔ ∃ k : Record.Key, k.text = name ∧ (j.textUnder k).isSome := by
  rw [Table.contains, Option.isSome_iff_exists]
  constructor
  · rintro ⟨text, htext⟩
    obtain ⟨k, hk, hunder⟩ := (j.holds_toRecord name text).1 htext
    exact ⟨k, hk, by rw [hunder]; rfl⟩
  · rintro ⟨k, hk, hsome⟩
    obtain ⟨text, hunder⟩ := Option.isSome_iff_exists.1 hsome
    exact ⟨text, (j.holds_toRecord name text).2 ⟨k, hk, hunder⟩⟩

/-- Whether two jobs are in one state, have the same stage and the same artifacts present, and are
written under the same names. -/
structure LooksLike (j j' : Job) : Prop where
  state : j.state = j'.state
  authorization : j.authorization.LooksLike j'.authorization
  names : j.toRecord.names = j'.toRecord.names

theorem isSome_textUnder {j j' : Job} (h : j.authorization.LooksLike j'.authorization)
    (k : Record.Key) : (j.textUnder k).isSome = (j'.textUnder k).isSome := by
  cases k with
  | exportService | importService | dataType | stage => rfl
  | artifact a => cases a <;> simp [textUnder, h.isSome]

theorem looksLike_of_authorization {j j' : Job} (hstate : j.state = j'.state)
    (h : j.authorization.LooksLike j'.authorization) : j.LooksLike j' := by
  refine ⟨hstate, h, Record.names_eq fun name => ?_⟩
  rw [Bool.eq_iff_iff, contains_toRecord, contains_toRecord]
  simp only [isSome_textUnder h]

/-- An artifact that is present has content; the session key is written as an empty text if it is
not. -/
theorem look_textUnder (j : Job) (a : Artifact) :
    Look.ofText? (j.textUnder (.artifact a))
      = if (j.authorization.get a).isSome then .content else .nothing := by
  have hlook : ∀ content : Option Sealed, Look.ofText? (content.map (·.text))
      = if content.isSome then .content else .nothing := by
    intro content
    cases content with
    | none => rfl
    | some content => exact Look.ofText?_text content
  cases a with
  | sessionKey =>
    rw [textUnder]
    cases j.authorization.get .sessionKey with
    | none => rfl
    | some key => exact Look.ofText?_text key
  | exportAuthData | importAuthData | publicKey | privateKey => exact hlook _

/-- Jobs that look alike and have the same services are written to records that look alike. -/
theorem LooksLike.toRecord {j j' : Job} (h : j.LooksLike j') (hservices : j.services = j'.services) :
    j.toRecord.LooksLike j'.toRecord := by
  have hvalue := j.holds_toRecord.value?
  have hvalue' := j'.holds_toRecord.value?
  constructor
  case plain =>
    intro name hname
    refine Option.ext fun text => ?_
    rw [j.holds_toRecord, j'.holds_toRecord]
    refine exists_congr fun k => and_congr_right fun hk => ?_
    cases k with
    | exportService | importService | dataType => rw [textUnder, textUnder, hservices]
    | stage => rw [textUnder, textUnder, stage, stage, h.authorization.stage]
    | artifact a => exact absurd hk (hname a)
  case look =>
    intro a
    rw [hvalue, hvalue', look_textUnder, look_textUnder, h.authorization.isSome]
  case sessionKey =>
    rw [hvalue, hvalue']
    rfl

end Job

/-- Whether two drafts have one policy in force and jobs that look alike. -/
structure Draft.LooksLike (d d' : Draft) : Prop where
  policy : d.policy = d'.policy
  job : d.job.LooksLike d'.job

-- ════════════════════════════════════════════════════════════════════════
-- Submissions to drafts and jobs
-- ════════════════════════════════════════════════════════════════════════

namespace Submission.LooksLike

variable {s s' : Submission}

theorem judge (h : s.LooksLike s') (policy : Policy) (old : Stage) :
    Except.Alike Authorization.LooksLike (s.judge policy old) (s'.judge policy old) := by
  rw [Submission.judge, Submission.judge, h.check_eq, h.stage]
  refine .bind (.refl _) fun _ _ _ => ?_
  split
  · exact .error _
  · exact h.ofSubmission.mapError _

/-- Submissions that look alike are granted or refused alike by drafts with one policy and with jobs
at one stage and in one state. -/
theorem submit (h : s.LooksLike s') {d d' : Draft} (hpolicy : d.policy = d'.policy)
    (hstage : d.job.stage = d'.job.stage) (hstate : d.job.state = d'.job.state) :
    Except.Alike Draft.LooksLike (d.submit s) (d'.submit s') := by
  rw [Draft.submit_eq, Draft.submit_eq, hpolicy, hstage]
  exact (h.judge _ _).map fun auth auth' hauth =>
    ⟨rfl, Job.looksLike_of_authorization hstate hauth⟩

theorem advance (h : s.LooksLike s') {j j' : Job} (hstage : j.stage = j'.stage)
    (hstate : j.state = j'.state) (policy : Policy) (now now' : Instant) :
    Except.Alike (fun next next' => next.LooksLike next' ∧ next.services = j.services ∧
      next'.services = j'.services) (j.advance s policy now) (j'.advance s' policy now') := by
  rw [Job.advance_eq, Job.advance_eq, hstage]
  exact (h.judge _ _).map fun auth auth' hauth =>
    ⟨Job.looksLike_of_authorization hstate hauth, rfl, rfl⟩

end Submission.LooksLike

-- ════════════════════════════════════════════════════════════════════════
-- Records that are read
-- ════════════════════════════════════════════════════════════════════════

namespace Record.LooksLike

variable {r r' : Record}

theorem demand_eq (h : r.LooksLike r') {k : Key} (hk : ∀ a, Key.artifact a ≠ k) :
    r.demand k = r'.demand k := by
  rw [demand, demand, value?, value?, h.plain k.text fun a ha => hk a (Key.text_inj.1 ha)]

/-- A session key is demanded of both records with success, or of neither. -/
theorem demand_sessionKey (h : r.LooksLike r') : Except.Alike
    (fun key key' => r.value? (.artifact .sessionKey) = some key ∧
      r'.value? (.artifact .sessionKey) = some key')
    (r.demand (.artifact .sessionKey)) (r'.demand (.artifact .sessionKey)) := by
  have hsome := h.sessionKey
  rw [demand, demand]
  cases hkey : r.value? (.artifact .sessionKey) with
  | none =>
    cases hkey' : r'.value? (.artifact .sessionKey) with
    | none => exact .error _
    | some key' =>
      rw [hkey, hkey'] at hsome
      cases hsome
  | some key =>
    cases hkey' : r'.value? (.artifact .sessionKey) with
    | none =>
      rw [hkey, hkey'] at hsome
      cases hsome
    | some key' => exact .ok ⟨rfl, rfl⟩

theorem submission (h : r.LooksLike r') (stage : Stage) :
    (r.submission stage).LooksLike (r'.submission stage) := by
  refine ⟨rfl, fun a => ?_⟩
  rw [get_submission, get_submission]
  exact h.look a

/-- Records that look alike are read as jobs that look alike and have the same services, or are
refused for one reason. -/
theorem ofRecord (h : r.LooksLike r') (now now' : Instant) :
    Except.Alike (fun j j' => j.LooksLike j' ∧ j.services = j'.services) (Job.ofRecord r now)
      (Job.ofRecord r' now') := by
  rw [Job.ofRecord, Job.ofRecord, h.demand_eq (k := .exportService) (by simp),
    h.demand_eq (k := .importService) (by simp), h.demand_eq (k := .dataType) (by simp),
    h.demand_eq (k := .stage) (by simp)]
  refine .bind (.refl _) ?_
  rintro exportService _ rfl
  refine .bind (.refl _) ?_
  rintro importService _ rfl
  refine .bind (.refl _) ?_
  rintro dataType _ rfl
  refine .bind (.refl _) ?_
  rintro name _ rfl
  cases Stage.ofName? name with
  | none => exact .error _
  | some stage =>
    refine .bind (.refl (pure stage)) ?_
    rintro _ _ rfl
    refine .bind h.demand_sessionKey ?_
    rintro key key' ⟨hkey, hkey'⟩
    rw [submissionOfRecord_eq hkey, submissionOfRecord_eq hkey']
    refine .bind ((h.submission _).ofSubmission.mapError _) ?_
    intro auth auth' hauth
    exact .ok ⟨Job.looksLike_of_authorization rfl hauth, rfl⟩

end Record.LooksLike

end EscrowLedger
