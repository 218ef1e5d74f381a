import EscrowLedger.Job.Id
import EscrowLedger.Json.Printer
import EscrowLedger.Ledger.Document

/-!
# Reports

What the command line prints. Artifacts are never printed from a job, only whether they are there.

## Main definitions

* `Command.Report` — the lines for each kind of news.
-/

namespace EscrowLedger.Command.Report

def created (id : JobId) : String := "  ✓ Job created: " ++ id.toText ++ "\n"

def advanced (id : JobId) (j : Job) : String :=
  "  ✓ Job " ++ id.toText ++ " now at " ++ j.stage.name ++ "\n"

def rejected (reason : String) : String := "  ✗ Rejected: " ++ reason ++ "\n"

def record (r : Record) : String := "─── Stored record ───\n" ++ r.toJson.pretty ++ "\n"

def column (name : String) : String :=
  String.ofList (name.toList ++ List.replicate (24 - name.length) ' ')

def artifact (j : Job) (a : Artifact) : String :=
  "  " ++ column a.name ++ " " ++ (if (j.authorization.get a).isSome then "present" else "empty")
    ++ "\n"

def job (j : Job) : String :=
  "─── Job ───\n" ++ "  state:       " ++ j.state.name ++ "\n"
    ++ "  export:      " ++ j.services.exportService ++ "\n"
    ++ "  import:      " ++ j.services.importService ++ "\n"
    ++ "  data type:   " ++ j.services.dataType ++ "\n"
    ++ "  stage:       " ++ j.stage.name ++ "\n"
    ++ String.join (Artifact.all.map (artifact j))

end EscrowLedger.Command.Report
