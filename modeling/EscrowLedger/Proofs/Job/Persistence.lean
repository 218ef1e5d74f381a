import EscrowLedger.Proofs.Escrow.Transport
import EscrowLedger.Proofs.Job.NormalForm

/-!
# Two ways to keep an authorization

A submission is kept as a JSON text, or spread over the keys of a record beside the services of a
job. The two ways have their own names and their own rules for what is absent: the text leaves an
absent artifact out, whereas a record must have a session key, be it an empty one. Whoever reads the
authorization back gets the same in both ways, and the same as from the submission itself: one
authorization, or one reason why there is none.

## Main definitions

* `Record.ofSubmission` — the record of services and a submission.

## Main statements

* `Authorization.readText_toJson` — the text is judged like the submission.
* `Job.ofRecord_of_mandatory` — a record is judged like the submission of its artifacts.
* `Job.kept_alike` — both ways side by side.
-/

namespace EscrowLedger

-- ════════════════════════════════════════════════════════════════════════
-- Kept as a text
-- ════════════════════════════════════════════════════════════════════════

theorem Submission.readText_toJson (s : Submission) :
    Submission.format.readText s.toJson.compact = .ok s := by
  rw [Json.Format.readText_compact, Submission.ofOutline_toJson]

/-- The text of a submission is judged like the submission. A reader of texts has no errors of its
own for authorizations, so the fault says what the error would say. -/
theorem Authorization.readText_toJson (s : Submission) :
    Authorization.format.readText s.toJson.compact = (Authorization.ofSubmission s).mapError
      fun v => .rejected (JobError.invalidAuthorization v).message := by
  simp only [Json.Format.readText_compact, Authorization.format, Json.Format.refine,
    Submission.ofOutline_toJson, bind, Except.bind]
  cases Authorization.ofSubmission s <;> rfl

-- ════════════════════════════════════════════════════════════════════════
-- Kept in a record
-- ════════════════════════════════════════════════════════════════════════

namespace Record

/-- The texts of services and of a submission, each under its key. -/
def textsOf (services : Job.Services) (s : Submission) : Key → Option String
  | .exportService => some services.exportService
  | .importService => some services.importService
  | .dataType => some services.dataType
  | .stage => some s.stage.name
  | .artifact a => s.get a

/-- The record of services and a submission. It has exactly the artifacts that are given. -/
def ofSubmission (services : Job.Services) (s : Submission) : Record := ofTexts (textsOf services s)

theorem value?_ofSubmission (services : Job.Services) (s : Submission) (k : Key) :
    (ofSubmission services s).value? k = textsOf services s k :=
  (holds_ofTexts _).value? k

theorem submission_ofSubmission (services : Job.Services) (s : Submission) :
    (ofSubmission services s).submission s.stage = s := by
  refine Submission.ext_get ?_ fun a => ?_
  · rw [stage_submission]
  · rw [get_submission, value?_ofSubmission, textsOf]

end Record

namespace Job

/-- Where no key is missing and the stage is known, a record is judged like the submission of its
artifacts. -/
theorem ofRecord_of_mandatory {r : Record} {services : Services} {stage : Stage} {key : String}
    (hexport : r.value? .exportService = some services.exportService)
    (himport : r.value? .importService = some services.importService)
    (hdata : r.value? .dataType = some services.dataType)
    (hname : r.value? .stage = some stage.name)
    (hkey : r.value? (.artifact .sessionKey) = some key) (now : Instant) :
    ofRecord r now = ((Authorization.ofSubmission (r.submission stage)).mapError
      .invalidAuthorization).map (restore services · now) := by
  rw [ofRecord, demand_eq_ok_iff.2 hexport, demand_eq_ok_iff.2 himport, demand_eq_ok_iff.2 hdata,
    demand_eq_ok_iff.2 hname]
  simp only [bind, Except.bind, Stage.ofName?_name, pure, Except.pure, demand_eq_ok_iff.2 hkey,
    Record.submissionOfRecord_eq hkey]
  cases Authorization.ofSubmission (r.submission stage) <;> rfl

theorem ofRecord_ofSubmission (services : Services) {s : Submission} {key : String}
    (h : s.get .sessionKey = some key) (now : Instant) :
    ofRecord (Record.ofSubmission services s) now = ((Authorization.ofSubmission s).mapError
      .invalidAuthorization).map (restore services · now) := by
  have hvalue := Record.value?_ofSubmission services s
  have hread := ofRecord_of_mandatory (r := Record.ofSubmission services s) (hvalue .exportService)
    (hvalue .importService) (hvalue .dataType) (hvalue .stage) ((hvalue _).trans h) now
  rwa [Record.submission_ofSubmission] at hread

/-- A submission comes back from its text as it was, with artifacts that are absent and artifacts
that are empty still apart. An authorization that is read from this text is the one that the
submission is converted to; if there is none, the fault says what the conversion says. The job that
is read from a record with any services and with the artifacts that are given has the same
authorization, or is refused for the same reason, provided that there is a session key. So in both
ways the authorization of a new job is given to the same submissions. -/
theorem kept_alike (s : Submission) :
    Submission.format.readText s.toJson.compact = .ok s ∧
    (Authorization.format.readText s.toJson.compact = (Authorization.ofSubmission s).mapError
      fun v => .rejected (JobError.invalidAuthorization v).message) ∧
    (Authorization.format.readText s.toJson.compact = .ok .unkeyed ↔ s.DescribesNew) ∧
    ∀ key, s.get .sessionKey = some key → ∀ (services : Services) (now : Instant),
      (Record.ofSubmission services s).Holds (Record.textsOf services s) ∧
      ofRecord (Record.ofSubmission services s) now = ((Authorization.ofSubmission s).mapError
        .invalidAuthorization).map (restore services · now) ∧
      (ofRecord (Record.ofSubmission services s) now = .ok (create services now) ↔
        s.DescribesNew) := by
  refine ⟨s.readText_toJson, Authorization.readText_toJson s, ?_, fun key hkey services now =>
    ⟨Record.holds_ofTexts _, ofRecord_ofSubmission services hkey now, ?_⟩⟩
  · rw [Authorization.readText_toJson, Except.mapError_eq_ok_iff,
      Authorization.ofSubmission_eq_unkeyed_iff]
  · rw [ofRecord_ofSubmission services hkey now, Except.map_eq_ok_iff,
      ← Authorization.ofSubmission_eq_unkeyed_iff]
    constructor
    · rintro ⟨auth, hauth, hjob⟩
      have hunkeyed : auth = .unkeyed := congrArg Job.authorization hjob
      rw [← hunkeyed]
      exact Except.mapError_eq_ok_iff.1 hauth
    · intro h
      exact ⟨.unkeyed, Except.mapError_eq_ok_iff.2 h, rfl⟩

/-- What may be given for a new job: a blank session key, and an empty text for another artifact. -/
def blankKeyed : Submission := ⟨.initial, some " ", none, some "", none, none⟩

/-- A blank session key is passed over for a new job in both ways, and reported in both as soon as
another artifact is blank and not empty. -/
theorem kept_alike_blankKeyed :
    blankKeyed.get .sessionKey = some " " ∧
    Authorization.format.readText blankKeyed.toJson.compact = .ok .unkeyed ∧
    ofRecord (Record.ofSubmission default blankKeyed) default = .ok (create default default) ∧
    (blankKeyed.set .publicKey " ").get .sessionKey = some " " ∧
    Authorization.format.readText (blankKeyed.set .publicKey " ").toJson.compact = .error (.rejected
      "invalid authorization state: stage INITIAL requires encryptedSessionKey") ∧
    ofRecord (Record.ofSubmission default (blankKeyed.set .publicKey " ")) default
      = .error (.invalidAuthorization ⟨.initial, .sessionKey, .required⟩) := by
  obtain ⟨-, htext, -, hrecord⟩ := kept_alike blankKeyed
  obtain ⟨-, hread, -⟩ := hrecord " " rfl default default
  obtain ⟨-, htext', -, hrecord'⟩ := kept_alike (blankKeyed.set .publicKey " ")
  obtain ⟨-, hread', -⟩ := hrecord' " " rfl default default
  exact ⟨rfl, htext, hread, rfl, htext', hread'⟩

end Job

end EscrowLedger
