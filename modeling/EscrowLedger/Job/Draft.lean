import EscrowLedger.Job.Basic

/-!
# Changing jobs

A change of a job is prepared in a draft and takes effect when the draft is committed. Every
submission and every move to another state is judged against what the draft holds by then, not
against the job it came from.

## Main definitions

* `Draft` — a job under change, with the policy in force.
* `Draft.submit`, `Draft.moveTo`, `Draft.commit` — the steps of a change.
* `Job.advance` — a change that consists of one submission.
-/

namespace EscrowLedger

/-- A job under change. -/
structure Draft where
  job : Job
  policy : Policy
deriving DecidableEq

def Job.draft (j : Job) : Draft := ⟨j, .lenient⟩

namespace Draft

def setPolicy (d : Draft) (policy : Policy) : Draft := { d with policy }

/-- Replaces the authorization by a submitted one. The artifacts are checked first, then the order
of stages. -/
def submit (d : Draft) (s : Submission) : Except JobError Draft := do
  s.check.mapError .invalidAuthorization
  if d.policy = .forwardOnly ∧ s.stage < d.job.stage then
    throw (.illegalStageTransition d.job.stage s.stage)
  let authorization ← (Authorization.ofSubmission s).mapError .invalidAuthorization
  pure { d with job := { d.job with authorization } }

def moveTo (d : Draft) (state : JobState) : Except JobError Draft :=
  if d.job.state.mayBecome state then pure { d with job := { d.job with state } }
  else throw (.illegalStateTransition d.job.state state)

/-- The changed job. The time of its last change never goes back. -/
def commit (d : Draft) (now : Instant) : Job :=
  { d.job with
    lastUpdate := max now d.job.lastUpdate
    created_le := Instant.le_trans d.job.created_le (Instant.le_max_right _ _) }

end Draft

def Job.advance (j : Job) (s : Submission) (policy : Policy) (now : Instant) :
    Except JobError Job := do
  let d ← (j.draft.setPolicy policy).submit s
  pure (d.commit now)

end EscrowLedger
