import EscrowLedger.Job.Draft
import EscrowLedger.Proofs.Job.Restoration

/-!
# What a submission changes

Whether a submission to a draft is granted rests on the policy in force and on the stage of the
draft, and on nothing else that the draft holds. A granted submission replaces the authorization and
nothing else. So jobs that have one authorization may make the same submissions, whatever their
services, states and times are.

## Main definitions

* `Submission.judge` — the authorization that a submission leads to, or why it is refused.

## Main statements

* `Submission.judge_eq_ok_iff` — when a submission is granted.
* `Submission.judge_toSubmission` — every authorization but that of a new job can be submitted.
* `Draft.submit_eq`, `Job.advance_eq` — what it does to a draft and to a job.
* `Draft.stage_le_of_submit`, `Job.stage_le_of_advance` — under a policy that only leads forward no
  stage is followed by an earlier one.
-/

namespace EscrowLedger

namespace Stage

theorem le_refl (a : Stage) : a ≤ a := Nat.le_refl _

theorem le_trans {a b c : Stage} (hab : a ≤ b) (hbc : b ≤ c) : a ≤ c := Nat.le_trans hab hbc

theorem le_of_not_lt {a b : Stage} (h : ¬b < a) : a ≤ b := Nat.le_of_not_lt h

end Stage

namespace Submission

/-- The authorization that a submission leads to under a policy and from a stage. -/
def judge (s : Submission) (policy : Policy) (old : Stage) : Except JobError Authorization := do
  s.check.mapError .invalidAuthorization
  if policy = .forwardOnly ∧ s.stage < old then throw (.illegalStageTransition old s.stage)
  (Authorization.ofSubmission s).mapError .invalidAuthorization

variable {s : Submission} {policy : Policy} {old : Stage} {auth : Authorization}

theorem judge_eq_ok_iff :
    s.judge policy old = .ok auth ↔ s.check = .ok () ∧
      ¬(policy = .forwardOnly ∧ s.stage < old) ∧ Authorization.ofSubmission s = .ok auth := by
  constructor
  · intro h
    obtain ⟨_, hcheck, h⟩ := Except.bind_eq_ok_iff.1 h
    split at h
    · cases h
    · next horder =>
      exact ⟨Except.mapError_eq_ok_iff.1 hcheck, horder, Except.mapError_eq_ok_iff.1 h⟩
  · rintro ⟨hcheck, horder, hauth⟩
    rw [judge, hcheck, if_neg horder, hauth]
    rfl

/-- The flat form of an authorization is granted unless it is that of a new job or leads back. -/
theorem judge_toSubmission (hkeyed : auth.isUnkeyed = false) (horder : old ≤ auth.stage) :
    auth.toSubmission.judge policy old = .ok auth := by
  refine judge_eq_ok_iff.2 ⟨auth.check_toSubmission.2 hkeyed, fun h => ?_,
    auth.ofSubmission_toSubmission⟩
  rw [Authorization.stage_toSubmission] at h
  exact absurd horder (Nat.not_le_of_lt h.2)

theorem stage_of_judge (h : s.judge policy old = .ok auth) : auth.stage = s.stage :=
  Authorization.stage_of_ofSubmission (judge_eq_ok_iff.1 h).2.2

theorem stage_le_of_judge (h : s.judge .forwardOnly old = .ok auth) : old ≤ auth.stage := by
  rw [stage_of_judge h]
  exact Stage.le_of_not_lt fun hlt => (judge_eq_ok_iff.1 h).2.1 ⟨rfl, hlt⟩

end Submission

theorem Draft.submit_eq (d : Draft) (s : Submission) :
    d.submit s = (s.judge d.policy d.job.stage).map fun auth =>
      { d with job := { d.job with authorization := auth } } := by
  rw [submit, Submission.judge]
  cases s.check with
  | error v => rfl
  | ok _ =>
    by_cases horder : d.policy = .forwardOnly ∧ s.stage < d.job.stage
    · rw [if_pos horder, if_pos horder]
      rfl
    · rw [if_neg horder, if_neg horder]
      cases Authorization.ofSubmission s <;> rfl

theorem Draft.stage_le_of_submit {d d' : Draft} {s : Submission} (h : d.submit s = .ok d')
    (hp : d.policy = .forwardOnly) : d.job.stage ≤ d'.job.stage := by
  rw [submit_eq, hp] at h
  obtain ⟨auth, hjudge, rfl⟩ := Except.map_eq_ok_iff.1 h
  exact Submission.stage_le_of_judge hjudge

namespace Job

theorem advance_eq (j : Job) (s : Submission) (policy : Policy) (now : Instant) :
    j.advance s policy now = (s.judge policy j.stage).map fun auth =>
      Draft.commit ⟨{ j with authorization := auth }, policy⟩ now := by
  rw [advance, Draft.submit_eq]
  change ((s.judge policy j.stage).map _ >>= _) = _
  cases s.judge policy j.stage <;> rfl

def firstKey : Sealed := ⟨"1", rfl⟩

def secondKey : Sealed := ⟨"2", rfl⟩

/-- A new job with a session key. -/
def keyed (key : Sealed) : Job := { (default : Job) with authorization := .initial (some key) }

/-- A new job takes any session key, under every policy. -/
theorem advance_keyed (key : Sealed) (policy : Policy) :
    (default : Job).advance (Authorization.initial (some key)).toSubmission policy default
      = .ok (keyed key) := by
  have hjudge : (Authorization.initial (some key)).toSubmission.judge policy (default : Job).stage
      = .ok (.initial (some key)) := Submission.judge_toSubmission rfl (Stage.le_refl _)
  rw [advance_eq, hjudge]
  rfl

theorem stage_le_of_advance {j j' : Job} {s : Submission} {now : Instant}
    (h : j.advance s .forwardOnly now = .ok j') : j.stage ≤ j'.stage := by
  rw [advance_eq] at h
  obtain ⟨auth, hjudge, rfl⟩ := Except.map_eq_ok_iff.1 h
  exact Submission.stage_le_of_judge hjudge

end Job

end EscrowLedger
