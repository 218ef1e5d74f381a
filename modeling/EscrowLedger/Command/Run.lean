import EscrowLedger.Command.Arguments
import EscrowLedger.Command.Report
import EscrowLedger.Ledger.InMemory
import EscrowLedger.Ledger.OnDisk
import EscrowLedger.LogLevel
import EscrowLedger.Settings

/-!
# Running commands

What a command line does, as a function of the disk it finds, of the environment, of the time, and of
an id that nobody has used before. The command line is understood before the settings are read, and
nothing is done if either fails, or if the log level cannot be used. The log level is the one of the
environment if all of it is understood, and the one of the settings otherwise.

## Main definitions

* `Command.World` — what a run depends on.
* `Command.Outcome` — what a run prints and how it ends.
* `Command.perform` — carries out a request under given settings.
* `Command.run` — carries out a command line.
-/

namespace EscrowLedger.Command

/-- What a run depends on, besides its command line. -/
structure World where
  disk : Disk
  environment : Environment
  now : Instant
  /-- An id that no job has. -/
  fresh : JobId

/-- What a run prints, and its status: 0 for success, 1 for a refusal, 2 for a command line that is
not understood, 101 for a run that is broken off. -/
structure Outcome where
  status : Nat
  output : String
  errors : String
deriving DecidableEq

namespace Outcome

def success (output : String) : Outcome := ⟨0, output, ""⟩

def brokenOff : Outcome := ⟨101, "", ""⟩

def refusal (output reason : String) : Outcome := ⟨1, output, Report.rejected reason⟩

end Outcome

/-- The reason of a refusal by a ledger: the error, and what lies behind it. -/
def ledgerReason (e : LedgerError) : String :=
  match e.cause? with
  | some cause => e.message ++ ": " ++ cause
  | none => e.message

def create (l : FileLedger) (services : Job.Services) (now : Instant) (fresh : JobId) :
    Outcome × FileLedger :=
  let (result, l) := Ledger.create l fresh (.create services now)
  match result with
  | .ok id => (.success (Report.created id), l)
  | .error e => (.refusal "" (ledgerReason e), l)

/-- Shows the record of a job, and the job if the record describes one. -/
def showJob (l : FileLedger) (id : JobId) (now : Instant) : Outcome :=
  match Ledger.get l id with
  | .error e => .refusal "" (ledgerReason e)
  | .ok none => .refusal "" (ledgerReason (.notFound id))
  | .ok (some record) =>
    match Job.ofRecord record now with
    | .ok j => .success (Report.record record ++ Report.job j)
    | .error e => .refusal (Report.record record) e.message

def advance (l : FileLedger) (id : JobId) (s : Submission) (policy : Policy) (now : Instant) :
    Outcome × FileLedger :=
  match Ledger.snapshot l id now with
  | .error e => (.refusal "" (ledgerReason e), l)
  | .ok read =>
    match read.job.advance s policy now with
    | .error e => (.refusal "" e.message, l)
    | .ok next =>
      let (result, l) := Ledger.save l id read.record next
      match result with
      | .ok () => (.success (Report.advanced id next), l)
      | .error e => (.refusal "" (ledgerReason e), l)

/-- The submission of a stage with a placeholder for each of some artifacts. -/
def placeholders (stage : Stage) (artifacts : List Artifact) : Submission :=
  artifacts.foldl (fun s a => s.set a ("sealed:" ++ a.name)) (.empty stage)

def handshake : List Submission :=
  [placeholders .initial [.sessionKey], placeholders .credsAvailable [.sessionKey],
    placeholders .credsEncryptionKeyGenerated [.sessionKey, .publicKey, .privateKey],
    placeholders .credsEncrypted Artifact.all]

def premature : Submission := placeholders .credsEncryptionKeyGenerated [.sessionKey]

/-- One step of the walk through the handshake, with what has been printed so far. -/
def walk (policy : Policy) (now : Instant) (id : JobId) (at_ : String × Job × MemoryLedger)
    (s : Submission) : Except String (String × Job × MemoryLedger) := do
  let (printed, j, l) := at_
  let next ← (j.advance s policy now).mapError (·.message)
  let (result, l) := Ledger.save l id j.toRecord next
  result.mapError ledgerReason
  pure (printed ++ Report.advanced id next, next, l)

/-- Walks a new job in memory through the whole handshake, and shows that a worker that skips the
generation of keys is refused. -/
def demo (policy : Policy) (now : Instant) (fresh : JobId) : Outcome :=
  let start := Job.create ⟨"SOURCE_SERVICE", "DESTINATION_SERVICE", "PHOTOS"⟩ now
  let (result, l) := Ledger.create MemoryLedger.empty fresh start
  let walked := do
    let id ← result.mapError ledgerReason
    let (printed, j, l) ← handshake.foldlM (walk policy now id) ("", start, l)
    let record ← (Ledger.get l id).mapError ledgerReason
    pure (printed ++ record.elim "" Report.record ++ Report.job j, j)
  match walked with
  | .error reason => .refusal "" reason
  | .ok (printed, j) =>
    match j.advance premature policy now with
    | .error e => ⟨0, printed, Report.rejected e.message⟩
    | .ok _ => .success printed

def Request.ledgerPath (r : Request) (settings : Settings) : Path :=
  .ofText (r.store.getD settings.storePath)

def perform (r : Request) (settings : Settings) (w : World) : Outcome × Disk :=
  let policy := if r.forwardOnly then .forwardOnly else settings.policy
  let ledger : FileLedger := ⟨r.ledgerPath settings, w.disk⟩
  match r.action with
  | .create services =>
    let (outcome, l) := create ledger services w.now w.fresh
    (outcome, l.disk)
  | .show id => (showJob ledger id w.now, w.disk)
  | .advance id request =>
    let (outcome, l) := advance ledger id request.toSubmission policy w.now
    (outcome, l.disk)
  | .demo => (demo policy w.now w.fresh, w.disk)

/-- Whether the log level of a request can be used. Verbose requests have one of their own. The one of
the environment goes first, unless it is no text or makes no sense. -/
def Request.canLog (r : Request) (settings : Settings) (environment : Environment) : Bool :=
  r.verbose ||
    match (Environment.text? environment.logLevel).map (LogLevel.readAll <| LogLevel.directives ·) with
    | some .understood => true
    | some .torn => false
    | some .senseless => LogLevel.isUsable settings.logLevel
    | none => LogLevel.isUsable settings.logLevel

def version : String := "transferjob 0.1.0\n"

def usage : String :=
  "Usage: transferjob [OPTIONS] <COMMAND>\n\nCommands:\n  create   --export <SERVICE> --import "
    ++ "<SERVICE> --data-type <TYPE>\n  show     <ID>\n  advance  <ID> --stage <STAGE> "
    ++ "[--session-key <TEXT>] [--public-key <TEXT>] [--private-key <TEXT>] [--export-auth <TEXT>] "
    ++ "[--import-auth <TEXT>]\n  demo\n\nOptions:\n  --store <PATH>  --forward-only  -v, --verbose\n"

def run (args : List String) (w : World) : Outcome × Disk :=
  match parse args with
  | .error .usage => (⟨2, "", usage⟩, w.disk)
  | .error .version => (.success version, w.disk)
  | .error .help => (.success usage, w.disk)
  | .ok r =>
    match Settings.load w.disk w.environment with
    | .error e => (.refusal "" ("config: " ++ e.message), w.disk)
    | .ok settings =>
      if r.canLog settings w.environment then perform r settings w else (.brokenOff, w.disk)

end EscrowLedger.Command
