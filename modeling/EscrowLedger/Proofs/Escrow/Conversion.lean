import EscrowLedger.Proofs.Escrow.Authorization
import EscrowLedger.Proofs.Results

/-!
# Conversion and check agree

A submission is judged twice: the check goes through the rules of its stage artifact by artifact,
and the conversion takes the artifacts out that its stage requires. Both come to the same verdict,
and for the same reason, on every submission but one kind. What describes a new job does not pass
the check, and is converted nevertheless.

Blank and empty texts are told apart here: a required artifact must not be blank, whereas a
forbidden one must be absent or empty, so that blanks in it are refused.

## Main definitions

* `Submission.DescribesNew` — nobody has chosen a session key yet, and nothing else is given.
* `Submission.Violates` — an artifact breaks the rule of the stage.
* `Submission.FirstViolation` — what is reported of a submission that breaks rules.

## Main statements

* `Submission.check_eq_error_iff` — the check reports the first violation.
* `Authorization.ofSubmission_eq_error_iff` — so does the conversion, unless the submission
  describes a new job.
* `Authorization.ofSubmission_agrees` — conversion and check side by side.
-/

namespace EscrowLedger

namespace Submission

variable {s : Submission}

/-- Whether a submission says no more than that a job is new: the stage is the first one, the
session key is absent or blank, and the other artifacts are absent or empty. -/
structure DescribesNew (s : Submission) : Prop where
  stage : s.stage = .initial
  sessionKey : ∀ text, s.get .sessionKey = some text → Text.isBlank text = true
  others : ∀ a, a ≠ .sessionKey → s.get a = none ∨ s.get a = some ""

/-- Whether an artifact breaks the rule of the stage. One that is required does so if it is absent
or blank, one that is forbidden if it is there and not empty. -/
def Violates (s : Submission) (a : Artifact) : Prop :=
  match s.stage.rule a with
  | .required => ∀ text, s.get a = some text → Text.isBlank text = true
  | .forbidden => ∃ text, s.get a = some text ∧ text ≠ ""

/-- Whether a violation is the one to report: it names the stage of the submission, an artifact that
breaks the rule of this stage though none that is checked before does, and that rule. -/
structure FirstViolation (s : Submission) (v : Violation) : Prop where
  stage : v.stage = s.stage
  rule : v.rule = s.stage.rule v.artifact
  violates : s.Violates v.artifact
  first : ∃ before after, Artifact.all = before ++ v.artifact :: after ∧
    ∀ a ∈ before, ¬s.Violates a

theorem isUnkeyed_iff : s.isUnkeyed = true ↔ s.DescribesNew := by
  have hothers : (∀ a ∈ Artifact.optional, (s.get a).all (· = "") = true)
      ↔ ∀ a, a ≠ .sessionKey → s.get a = none ∨ s.get a = some "" := by
    have hall : ∀ o : Option String, o.all (· = "") = true ↔ o = none ∨ o = some "" := by
      intro o
      cases o <;> simp
    constructor
    · intro h a ha
      apply (hall _).1
      apply h
      cases a <;> simp [Artifact.optional] at ha ⊢
    · intro h a ha
      apply (hall _).2
      apply h
      rintro rfl
      simp [Artifact.optional] at ha
  have hkey : s.sessionKey.all Text.isBlank = true
      ↔ ∀ text, s.get .sessionKey = some text → Text.isBlank text = true := by
    rw [get]
    cases s.sessionKey <;> simp
  rw [isUnkeyed, Bool.and_eq_true, Bool.and_eq_true, decide_eq_true_eq, List.all_eq_true, hothers,
    hkey]
  constructor
  · rintro ⟨⟨hstage, hkey⟩, hothers⟩
    exact ⟨hstage, hkey, hothers⟩
  · intro h
    exact ⟨⟨h.stage, h.sessionKey⟩, h.others⟩

instance (s : Submission) : Decidable s.DescribesNew := decidable_of_iff _ isUnkeyed_iff

theorem breaks_iff {a : Artifact} : s.breaks a = true ↔ s.Violates a := by
  rw [breaks, Violates]
  cases s.stage.rule a with
  | required => cases s.get a <;> simp [Rule.isBroken]
  | forbidden => cases s.get a <;> simp [Rule.isBroken]

instance (s : Submission) (a : Artifact) : Decidable (s.Violates a) := decidable_of_iff _ breaks_iff

theorem check_eq_error_iff {v : Violation} : s.check = .error v ↔ s.FirstViolation v := by
  rw [check]
  constructor
  · intro h
    split at h
    · next a hfind =>
      cases h
      obtain ⟨hbreaks, before, after, hall, hbefore⟩ := List.find?_eq_some_iff_append.1 hfind
      refine ⟨rfl, rfl, breaks_iff.1 hbreaks, before, after, hall, fun b hb => ?_⟩
      rw [← breaks_iff]
      simpa using hbefore b hb
    · cases h
  · rintro ⟨hstage, hrule, hviolates, before, after, hall, hbefore⟩
    have hfind : Artifact.all.find? s.breaks = some v.artifact := by
      apply List.find?_eq_some_iff_append.2
      refine ⟨breaks_iff.2 hviolates, before, after, hall, fun b hb => ?_⟩
      rw [Bool.not_eq_true', ← Bool.not_eq_true, breaks_iff]
      exact hbefore b hb
    rw [hfind]
    change Except.error (Violation.mk s.stage v.artifact (s.stage.rule v.artifact)) = .error v
    rw [← hrule, ← hstage]

/-- What describes a new job lacks the session key that its stage requires. -/
theorem DescribesNew.violates (h : s.DescribesNew) : s.Violates .sessionKey := by
  have hrule : s.stage.rule .sessionKey = .required := by cases s.stage <;> rfl
  rw [Violates, hrule]
  exact h.sessionKey

theorem DescribesNew.check_ne_ok (h : s.DescribesNew) : s.check ≠ .ok () := by
  intro hcheck
  have hbreaks := check_eq_ok_iff.1 hcheck .sessionKey
  rw [breaks_iff.2 h.violates] at hbreaks
  cases hbreaks

end Submission

namespace Authorization

variable {s : Submission}

theorem ofSubmission_of_describesNew (h : s.DescribesNew) : ofSubmission s = .ok unkeyed := by
  rw [ofSubmission, if_pos (Submission.isUnkeyed_iff.2 h)]

theorem ofSubmission_of_not_describesNew (h : ¬s.DescribesNew) :
    ofSubmission s = s.check >>= fun _ => (assemble s.stage).run' s := by
  rw [ofSubmission, if_neg (fun hunkeyed => h (Submission.isUnkeyed_iff.1 hunkeyed))]

/-- After a passed check all artifacts that the stage requires can be taken out. -/
theorem exists_run'_assemble (h : s.check = .ok ()) :
    ∃ auth, (assemble s.stage).run' s = .ok auth := by
  obtain ⟨auth, hkeyed, hstage, htext⟩ := exists_of_check h
  rw [← hstage]
  exact ⟨auth, run'_assemble hkeyed htext⟩

theorem ofSubmission_eq_unkeyed_iff : ofSubmission s = .ok unkeyed ↔ s.DescribesNew := by
  refine ⟨fun h => Classical.byContradiction fun hnew => ?_, ofSubmission_of_describesNew⟩
  rw [ofSubmission_of_not_describesNew hnew] at h
  obtain ⟨_, hcheck, -⟩ := Except.bind_eq_ok_iff.1 h
  obtain ⟨auth, hauth, hkeyed, -, -⟩ := exists_ofSubmission hcheck
  rw [ofSubmission_of_not_describesNew hnew, h] at hauth
  obtain rfl := Except.ok.inj hauth
  cases hkeyed

theorem exists_ofSubmission_iff (h : ¬s.DescribesNew) :
    (∃ auth, ofSubmission s = .ok auth) ↔ s.check = .ok () := by
  constructor
  · rintro ⟨auth, hauth⟩
    rw [ofSubmission_of_not_describesNew h] at hauth
    obtain ⟨_, hcheck, -⟩ := Except.bind_eq_ok_iff.1 hauth
    exact hcheck
  · intro hcheck
    obtain ⟨auth, hauth, -⟩ := exists_ofSubmission hcheck
    exact ⟨auth, hauth⟩

theorem ofSubmission_eq_error_iff (h : ¬s.DescribesNew) {v : Violation} :
    ofSubmission s = .error v ↔ s.check = .error v := by
  rw [ofSubmission_of_not_describesNew h]
  cases hcheck : s.check with
  | error w =>
    change Except.error w = .error v ↔ Except.error w = .error v
    simp
  | ok _ =>
    obtain ⟨auth, hauth⟩ := exists_run'_assemble hcheck
    change (assemble s.stage).run' s = .error v ↔ _
    rw [hauth]
    simp

/-- Conversion and check agree. The conversion gives the authorization of a new job for what
describes a new job, which never passes the check, and for nothing else. On every other submission
it succeeds if and only if the check does, and fails with the violation that the check reports,
which is the first one in the order of artifacts. So it never finds an artifact missing behind a
passed check. -/
theorem ofSubmission_agrees (s : Submission) :
    (ofSubmission s = .ok unkeyed ↔ s.DescribesNew) ∧
    (s.DescribesNew → s.check ≠ .ok ()) ∧
    (¬s.DescribesNew → ((∃ auth, ofSubmission s = .ok auth) ↔ s.check = .ok ()) ∧
      ∀ v, ofSubmission s = .error v ↔ s.check = .error v) ∧
    (∀ v, s.check = .error v ↔ s.FirstViolation v) ∧
    (s.check = .ok () → ∃ auth, (assemble s.stage).run' s = .ok auth) := by
  refine ⟨ofSubmission_eq_unkeyed_iff, fun h => h.check_ne_ok, fun h => ⟨?_, fun v => ?_⟩,
    fun v => Submission.check_eq_error_iff, exists_run'_assemble⟩
  · exact exists_ofSubmission_iff h
  · exact ofSubmission_eq_error_iff h

end Authorization

end EscrowLedger
