import EscrowLedger.Command.Run

/-!
# Program

The command line as a program. The files that a run can reach are the settings, the ledger and the
temporary file of the ledger; they are read before the run, and what the run changed is written
afterwards. Times are no part of a record and no command prints one, so every run takes place at the
same instant.

## Main definitions

* `Program.explore` — reads what stands on the way to a file.
* `Program.settle` — writes what a run has changed.
* `main` — the program.
-/

namespace EscrowLedger.Program

def wayTo : Location → String
  | [] => "."
  | "/" :: names => "/" ++ "/".intercalate names
  | names => "/".intercalate names

/-- What stands at a place. Reading a directory fails with the error 21. -/
def look (place : Location) : IO (Option Disk.Node) := do
  try
    return some (.file (← IO.FS.readBinFile (wayTo place)))
  catch
    | .inappropriateType none 21 _ => return some .directory
    | _ => return none

/-- Enters what stands at the end of a path and at the places that lead there. -/
def explore (d : Disk) (p : Path) : IO Disk := do
  if p.hasNul then return d
  let (_, found) ← p.names.foldlM (fun (place, (d : Disk)) name => do
    let next := Path.enter place name
    match ← look next with
    | some node => return (next, ⟨d.nodes.insert next node⟩)
    | none => return (next, d)) (p.start, d)
  return found

/-- The place of a ledger and what stands there, if a run has changed that. -/
def changed? (old : Disk) (new : FileLedger) : Option (Location × Disk.Node) :=
  match new.disk.visit new.path with
  | .ok (place, node) => if old.node? place = some node then none else some (place, node)
  | .error _ => none

/-- Writes what a run has changed. A new document goes to the temporary file first, which then takes
the name of the ledger. -/
def settle (old : Disk) (new : FileLedger) : IO Unit := do
  match new.disk.locate new.temporary, changed? old new with
  | .ok aside, some (place, .file content) =>
    IO.FS.writeBinFile (wayTo aside) content
    IO.FS.rename (wayTo aside) (wayTo place)
  | .ok aside, _ =>
    if (old.node? aside).isSome ∧ (new.disk.node? aside).isNone then
      IO.FS.removeFile (wayTo aside)
  | .error _, _ => pure ()

def draw : IO Nat := do
  return (← IO.getRandomBytes 16).toList.foldl (fun n b => 256 * n + b.toNat) 0

/-- The path of the ledger that a command line is about, if it is about one. -/
def ledgerPath? (args : List String) (d : Disk) (environment : Environment) : Option Path :=
  match Command.parse args, Settings.load d environment with
  | .ok r, .ok settings => some (r.ledgerPath settings)
  | _, _ => none

end EscrowLedger.Program

open EscrowLedger in
def main (args : List String) : IO UInt32 := do
  let environment : Environment :=
    ⟨(← IO.getEnv "TRANSFERJOB_STORE").map String.toUTF8, (← IO.getEnv "RUST_LOG").map String.toUTF8⟩
  let fresh := JobId.ofRandom (← Program.draw)
  let settled ← Program.explore .empty Settings.path
  let path? := Program.ledgerPath? args settled environment
  let disk ← match path? with
    | some p => Program.explore (← Program.explore settled p) (FileLedger.mk p settled).temporary
    | none => pure settled
  let (outcome, left) := Command.run args ⟨disk, environment, .epoch, fresh⟩
  if let some p := path? then Program.settle disk ⟨p, left⟩
  IO.print outcome.output
  IO.eprint outcome.errors
  return outcome.status.toUInt32
