import EscrowLedger.Job.Draft
import EscrowLedger.Proofs.Job.Reading

/-!
# Jobs come back from transport

The text that hands a job over is read as that job, whatever its services and its artifacts are, and
whatever its times are, if only there are timestamps for them. The reader refuses artifacts that do
not fit the stage and a last change that lies before the creation. No job has artifacts that do not
fit. But a leap second inside of a minute has no timestamp: it is written, and so it is read, as the
second after it. This moves the times of a job, and where the last change follows within that second
it puts them out of order, so that the text of the job is refused.

Every job that was read from a text has timestamps. So from then on it keeps its text.

## Main definitions

* `Job.HasTimestamps` — the jobs whose times can be written.
* `Job.asWritten` — what the text of a job shows.

## Main statements

* `Job.ofOutline_toJson`, `Job.ofText_toText` — what is read from the object of a job and from its
  text.
* `Job.transport_keeps` — which jobs come back, and what comes back of the others.
-/

namespace EscrowLedger

open Json (Layout Outline)

theorem JobState.ofOutline_toJson (s : JobState) :
    JobState.format.ofOutline (.ofJson s.toJson) = .ok s := by
  cases s <;> rfl

theorem Instant.ofOutline_toJson (i : Instant) :
    format.ofOutline (.ofJson i.toJson) = .ok i.written := by
  simp only [format, Json.Format.ofText, toJson, Outline.ofJson, ofText?_toText]

namespace Job

/-- What the text of a job shows. -/
def asWritten (j : Job) : Unordered :=
  ⟨j.state, j.services, j.created.written, j.lastUpdate.written, j.authorization⟩

/-- Whether there are timestamps for the times of a job. -/
structure HasTimestamps (j : Job) : Prop where
  created : j.created.HasTimestamp
  lastUpdate : j.lastUpdate.HasTimestamp

theorem asWritten_eq_iff {j : Job} : j.asWritten = j.unordered ↔ j.HasTimestamps := by
  simp only [asWritten, unordered, Unordered.mk.injEq, true_and, and_true,
    Instant.written_eq_self_iff]
  constructor
  · rintro ⟨hcreated, hlast⟩
    exact ⟨hcreated, hlast⟩
  · rintro ⟨hcreated, hlast⟩
    exact ⟨hcreated, hlast⟩

theorem stage_of_asWritten {j j' : Job} (h : j'.unordered = j.asWritten) : j'.stage = j.stage :=
  congrArg (·.authorization.stage) h

theorem ofOutline_toJson (j : Job) : format.ofOutline (.ofJson j.toJson)
    = (ofUnordered j.asWritten).mapError fun e => .rejected e.message := by
  have htext : ∀ s, Json.Format.text.ofOutline (.ofJson (.string s)) = .ok s := fun _ => rfl
  have hmembers : (Outline.ofMembers [("state", j.state.toJson),
      ("exportService", .string j.services.exportService),
      ("importService", .string j.services.importService),
      ("transferDataType", .string j.services.dataType), ("createdTimestamp", j.created.toJson),
      ("lastUpdateTimestamp", j.lastUpdate.toJson),
      ("jobAuthorization", j.authorization.toJson)]).foldlM layout.readMember .blank
      = .ok ⟨some j.state, some j.services.exportService, some j.services.importService,
        some j.services.dataType, some j.created.written, some j.lastUpdate.written,
        some j.authorization⟩ := by
    refine (Layout.foldlM_readMember_of rfl rfl (JobState.ofOutline_toJson _) _).trans ?_
    refine (Layout.foldlM_readMember_of rfl rfl (htext _) _).trans ?_
    refine (Layout.foldlM_readMember_of rfl rfl (htext _) _).trans ?_
    refine (Layout.foldlM_readMember_of rfl rfl (htext _) _).trans ?_
    refine (Layout.foldlM_readMember_of rfl rfl (Instant.ofOutline_toJson _) _).trans ?_
    refine (Layout.foldlM_readMember_of rfl rfl (Instant.ofOutline_toJson _) _).trans ?_
    refine (Layout.foldlM_readMember_of rfl rfl (Authorization.ofOutline_toJson _) _).trans ?_
    rfl
  have hparts : layout.format.ofOutline (.ofJson j.toJson) = .ok j.asWritten := by
    change (List.foldlM layout.readMember .blank _ >>= Parts.assemble .missingField) = _
    rw [hmembers]
    rfl
  simp only [format, Json.Format.refine, hparts, bind, Except.bind]
  cases ofUnordered j.asWritten <;> rfl

theorem ofText_toText (j : Job) : ofText j.toText
    = (ofUnordered j.asWritten).mapError fun e => .rejected e.message := by
  rw [ofText, toText, Json.Format.readText_compact, ofOutline_toJson]

theorem ofText_toText_eq_ok_iff {j j' : Job} :
    ofText j.toText = .ok j' ↔ j'.unordered = j.asWritten := by
  rw [ofText_toText, Except.mapError_eq_ok_iff, ofUnordered_eq_ok_iff]

theorem ofText_toText_eq_self_iff {j : Job} : ofText j.toText = .ok j ↔ j.HasTimestamps := by
  rw [ofText_toText_eq_ok_iff, eq_comm, asWritten_eq_iff]

theorem hasTimestamps_of_ofText {text : String} {j : Job} (h : ofText text = .ok j) :
    j.HasTimestamps := by
  obtain ⟨o, -, hj⟩ := Json.Format.readText_eq_ok_iff.1 h
  obtain ⟨ms, -, hgiven⟩ := ofOutline_eq_ok_iff.1 hj
  obtain ⟨s, -, hcreated⟩ := hgiven.created
  obtain ⟨s', -, hlast⟩ := hgiven.lastUpdate
  exact ⟨hcreated.hasTimestamp, hlast.hasTimestamp⟩

/-- What is read from the text of a job holds what the job holds, with its times as they are
written; if these are out of order, the text is refused for that. So a job comes back exactly if
there are timestamps for its times. A job that was read from a text always comes back, so a text that
is read and written again is the text of the same job ever after. -/
theorem transport_keeps (j : Job) :
    ofText j.toText = (ofUnordered j.asWritten).mapError (fun e => .rejected e.message) ∧
    (ofText j.toText = .ok j ↔ j.HasTimestamps) ∧
    ∀ text, ((ofText text).bind fun j => ofText j.toText) = ofText text ∧
      ((ofText text).bind fun j => (ofText j.toText).map toText) = (ofText text).map toText := by
  refine ⟨ofText_toText j, ofText_toText_eq_self_iff, fun text => ?_⟩
  cases h : ofText text with
  | error e => simp only [Except.bind, Except.map, and_self]
  | ok j =>
    have hj := ofText_toText_eq_self_iff.2 (hasTimestamps_of_ofText h)
    simp only [Except.bind, Except.map, hj, and_self]

/-- The middle of a leap second that extends the first second of a minute. -/
def insideMinute : Instant := (Instant.ofParts? 1709294400 1500000000).get (by decide)

/-- The middle of the second after it. -/
def halfPast : Instant := (Instant.ofParts? 1709294401 500000000).get (by decide)

/-- The start of the second after it. -/
def nextSecond : Instant := (Instant.ofParts? 1709294401 0).get (by decide)

/-- A new job that was made in this leap second comes back as one that was made half a second into
the second after it. If it was changed at the start of that second, its text is refused. -/
theorem ofText_toText_insideMinute :
    ofText (create default insideMinute).toText = .ok (create default halfPast) ∧
    create default halfPast ≠ create default insideMinute ∧
    ((create default insideMinute).draft.commit nextSecond).lastUpdate = nextSecond ∧
    ofText ((create default insideMinute).draft.commit nextSecond).toText
      = .error (.rejected (JobError.timestampOrder halfPast nextSecond).message) := by
  refine ⟨ofText_toText_eq_ok_iff.2 (by decide), by decide, by decide, ?_⟩
  rw [ofText_toText]
  rfl

end Job

end EscrowLedger
