import EscrowLedger.Job.Basic
import EscrowLedger.Table

/-!
# Flat records

A ledger keeps a job as a flat map from keys to texts. The map holds services, stage and artifacts,
but neither the state nor the times of the job: a job that comes back from its record counts as new
and as just made.

## Main definitions

* `Record` — the map, with its keys in `Record.Key`.
* `Job.toRecord` — the record of a job.
* `Job.ofRecord` — the job of a record, under the time of reading.
-/

namespace EscrowLedger

abbrev Record := Table String String

namespace Record

/-- The keys of a record. -/
inductive Key where
  | exportService
  | importService
  | dataType
  | stage
  | artifact (a : Artifact)
deriving DecidableEq

def Key.text : Key → String
  | .exportService => "EXPORT_SERVICE"
  | .importService => "IMPORT_SERVICE"
  | .dataType => "DATA_TYPE"
  | .stage => "AUTHORIZATION_STATE"
  | .artifact .sessionKey => "ENCRYPTED_SESSION_KEY"
  | .artifact .exportAuthData => "EXPORT_ENCRYPTED_CREDS_KEY"
  | .artifact .importAuthData => "IMPORT_ENCRYPTED_CREDS_KEY"
  | .artifact .publicKey => "WORKER_INSTANCE_PUBLIC_KEY"
  | .artifact .privateKey => "WORKER_INSTANCE_PRIVATE_KEY"

def value? (r : Record) (k : Key) : Option String := r.get? k.text

def set (r : Record) (k : Key) (text : String) : Record := r.insert k.text text

/-- The text under a key that must be there. -/
def demand (r : Record) (k : Key) : Except JobError String :=
  match r.value? k with
  | some text => .ok text
  | none => .error (.missingField k.text)

/-- The stage name in a record, empty if there is none. -/
def stageName (r : Record) : String := (r.value? .stage).getD ""

end Record

namespace Job

/-- The record of a job. The session key is always written, empty if there is none; the other
artifacts are written if they are present. -/
def toRecord (j : Job) : Record :=
  let base : Record := ((((∅ : Record).set .dataType j.services.dataType).set .exportService
    j.services.exportService).set .importService j.services.importService).set .stage j.stage.name
  let keyed := base.set (.artifact .sessionKey)
    ((j.authorization.get .sessionKey).elim "" (·.text))
  Artifact.optional.foldl (fun r a =>
    match j.authorization.get a with
    | some content => r.set (.artifact a) content.text
    | none => r) keyed

def submissionOfRecord (r : Record) (stage : Stage) (sessionKey : String) : Submission :=
  Artifact.optional.foldl (fun s a =>
    match r.value? (.artifact a) with
    | some text => s.set a text
    | none => s) ((Submission.empty stage).set .sessionKey sessionKey)

def ofRecord (r : Record) (now : Instant) : Except JobError Job := do
  let exportService ← r.demand .exportService
  let importService ← r.demand .importService
  let dataType ← r.demand .dataType
  let stageName ← r.demand .stage
  let stage ← match Stage.ofName? stageName with
    | some stage => pure stage
    | none => throw (.unknownStage stageName)
  let sessionKey ← r.demand (.artifact .sessionKey)
  let authorization ← (Authorization.ofSubmission (submissionOfRecord r stage sessionKey)).mapError
    .invalidAuthorization
  pure (restore ⟨exportService, importService, dataType⟩ authorization now)

end Job

end EscrowLedger
