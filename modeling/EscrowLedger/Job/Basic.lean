import EscrowLedger.Escrow.Authorization
import EscrowLedger.Instant.Timestamp
import EscrowLedger.Job.State

/-!
# Jobs

A job moves data of one type from one service to another. Its record says when it was created and
last changed, which state it is in, and what authorization it holds. It was never changed before it
was created.

## Main definitions

* `Job` — the record.
* `Job.Services` — the part of it that never changes.
* `Job.create`, `Job.restore` — a new job, and a job of which only services and authorization were
  kept.
* `JobError` — why a job is refused.
-/

namespace EscrowLedger

/-- Between which services a job moves data, and of what type. -/
structure Job.Services where
  exportService : String
  importService : String
  dataType : String
deriving DecidableEq, Inhabited

/-- The record of a job. -/
structure Job where
  state : JobState
  services : Job.Services
  created : Instant
  lastUpdate : Instant
  authorization : Authorization
  created_le : created ≤ lastUpdate
deriving DecidableEq

namespace Job

/-- A job of which only services and authorization are known: it counts as new and as just made. -/
def restore (services : Services) (authorization : Authorization) (now : Instant) : Job :=
  ⟨.new, services, now, now, authorization, Instant.le_refl now⟩

def create (services : Services) (now : Instant) : Job := restore services .unkeyed now

instance : Inhabited Job := ⟨create default default⟩

def stage (j : Job) : Stage := j.authorization.stage

end Job

/-- Why a job, or a change of one, is refused. -/
inductive JobError where
  /-- The artifacts do not fit the stage. -/
  | invalidAuthorization (violation : Violation)
  /-- A record lacks a key. -/
  | missingField (key : String)
  | unknownStage (name : String)
  /-- A stage may not be followed by an earlier one. -/
  | illegalStageTransition (old next : Stage)
  /-- A final state is never left. -/
  | illegalStateTransition (old next : JobState)
  /-- The last change lies before the creation. -/
  | timestampOrder (created lastUpdate : Instant)
deriving DecidableEq

namespace JobError

def message : JobError → String
  | .invalidAuthorization v => v.message
  | .missingField key => "missing required field: " ++ key
  | .unknownStage name => "unknown authorization stage: " ++ name
  | .illegalStageTransition old next =>
    "illegal stage transition: " ++ old.name ++ " -> " ++ next.name
  | .illegalStateTransition old next =>
    "illegal job state transition: " ++ old.name ++ " -> " ++ next.name
  | .timestampOrder created lastUpdate =>
    "created timestamp " ++ created.describe ++ " is after last update timestamp "
      ++ lastUpdate.describe

end JobError

end EscrowLedger
