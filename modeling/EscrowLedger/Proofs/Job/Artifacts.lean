import EscrowLedger.Proofs.Job.Record
import EscrowLedger.Proofs.Job.Transport

/-!
# Jobs show the artifacts of their stage

A job can be looked at in four ways: as it is, through the flat form of its authorization, through
its record, and through the text that hands it over. All of them show the same artifacts, namely
those that the stage requires, whatever stages the job went through before. Only a job that nobody
has given a session key shows none.

## Main definitions

* `Job.ArtifactsFit` — the artifacts that each form of a job shows.

## Main statements

* `Job.value?_sessionKey_toRecord` — when a record has an empty session key.
* `Job.artifactsFit` — the artifacts of every job fit its stage in each of its forms.
-/

namespace EscrowLedger

namespace Authorization

/-- The members that an authorization has in transport: its stage, and the artifacts that are there. -/
def members (auth : Authorization) : List (String × Json) :=
  ("stage", .string auth.stage.name)
    :: Artifact.all.filterMap fun a => (auth.get a).map fun content =>
      (a.name, .string content.text)

theorem toJson_eq (auth : Authorization) : auth.toJson = .object auth.members := by
  rw [toJson, Submission.toJson, members, stage_toSubmission, Stage.toJson]
  congr 3
  funext a
  rw [get_toSubmission, Option.map_map]
  rfl

end Authorization

namespace Job

/-- What holds of the artifacts that the forms of a job show. -/
structure ArtifactsFit (j : Job) : Prop where
  /-- Without a session key a job has the first stage, and no artifacts. -/
  unkeyed : j.authorization.isUnkeyed = true →
    j.stage = .initial ∧ ∀ a, j.authorization.get a = none
  /-- Otherwise it has exactly the artifacts that its stage requires. -/
  keyed : j.authorization.isUnkeyed = false →
    ∀ a, (j.authorization.get a).isSome = true ↔ j.stage.rule a = .required
  not_blank : ∀ {a content}, j.authorization.get a = some content →
    Text.isBlank content.text = false
  /-- The flat form has the same stage and the same artifacts. -/
  submission : j.authorization.toSubmission.stage = j.stage ∧
    ∀ a, j.authorization.toSubmission.get a = (j.authorization.get a).map (·.text)
  check_iff : j.authorization.toSubmission.check = .ok () ↔ j.authorization.isUnkeyed = false
  /-- The record has the services, the stage, a session key, the other artifacts that are there, and
  nothing else. -/
  record : j.toRecord.Holds j.textUnder
  sessionKey_iff : j.toRecord.value? (.artifact .sessionKey) = some ""
    ↔ j.authorization.isUnkeyed = true
  /-- The text has the stage and the artifacts that are there, and nothing else. -/
  transport : ∃ parts, Json.parse? j.toText = some (.object parts) ∧
    parts.lookup "jobAuthorization" = some (.object j.authorization.members)

theorem value?_sessionKey_toRecord (j : Job) :
    j.toRecord.value? (.artifact .sessionKey) = some "" ↔ j.authorization.isUnkeyed = true := by
  rw [j.holds_toRecord.value?, textUnder, Option.some.injEq]
  cases h : j.authorization.isUnkeyed with
  | true =>
    rw [Authorization.isUnkeyed_eq_true_iff.1 h]
    exact ⟨fun _ => rfl, fun _ => rfl⟩
  | false =>
    obtain ⟨key, hget⟩ := Authorization.exists_sessionKey h
    rw [hget]
    constructor
    · intro hempty
      exact absurd hempty (Text.ne_empty_of_not_isBlank key.not_blank)
    · intro hfalse
      exact absurd hfalse Bool.false_ne_true

/-- The artifacts of every job, whichever way it was made, fit its stage in each of its forms. -/
theorem artifactsFit (j : Job) : j.ArtifactsFit where
  unkeyed h := by
    have hauth := Authorization.isUnkeyed_eq_true_iff.1 h
    refine ⟨?_, fun a => ?_⟩
    · rw [stage, hauth]
      rfl
    · rw [hauth, Authorization.get_unkeyed]
  keyed h a := Authorization.isSome_get_of_keyed h a
  not_blank {_ content} _ := content.not_blank
  submission := ⟨j.authorization.stage_toSubmission, j.authorization.get_toSubmission⟩
  check_iff := j.authorization.check_toSubmission
  record := j.holds_toRecord
  sessionKey_iff := j.value?_sessionKey_toRecord
  transport := by
    refine ⟨_, Json.parse?_compact j.toJson, ?_⟩
    rw [Authorization.toJson_eq]
    rfl

end Job

end EscrowLedger
