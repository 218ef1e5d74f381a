import EscrowLedger.Disk.Basic
import EscrowLedger.Job.State
import EscrowLedger.Toml.Document

/-!
# Settings

Three settings can be made in a file in the working directory; the path of the ledger can also come
from the environment, which goes first unless it is empty or no text. A file that does not exist
leaves everything at its default.

## Main definitions

* `Environment` — the values of the environment.
* `Settings` — the settings, with their defaults.
* `Settings.load` — the settings in force.
-/

namespace EscrowLedger

/-- The values of the environment that matter, byte by byte. -/
structure Environment where
  /-- The path of the ledger. -/
  storePath : Option ByteArray
  logLevel : Option ByteArray

namespace Environment

def empty : Environment := ⟨none, none⟩

instance : Inhabited Environment := ⟨empty⟩

/-- A value that is text. Any other value counts as none. -/
def text? (value : Option ByteArray) : Option String := value.bind String.fromUTF8?

end Environment

/-- What can be set. -/
structure Settings where
  /-- The path of the ledger. -/
  storePath : String
  logLevel : String
  /-- Whether stages may not go back. -/
  forwardOnly : Bool
deriving DecidableEq

/-- Why the settings cannot be read. -/
inductive SettingsError where
  | disk (reason : DiskError)
  /-- The file is not TOML, or a setting has a value of another kind. -/
  | unreadable
deriving DecidableEq

def SettingsError.message : SettingsError → String
  | .disk reason => reason.message
  | .unreadable => "unreadable settings"

namespace Settings

/-- The settings that hold if nothing is set. -/
def default : Settings := ⟨"jobs.json", "info", false⟩

instance : Inhabited Settings := ⟨default⟩

def path : Path := .ofText "transferjob.toml"

def policy (s : Settings) : Policy := if s.forwardOnly then .forwardOnly else .lenient

def text? (items : Toml.Items) (name : String) (otherwise : String) : Option String :=
  match items.lookup name with
  | none => some otherwise
  | some (.text s) => some s
  | some _ => none

/-- A setting that is on or off. -/
def flag? (items : Toml.Items) (name : String) (otherwise : Bool) : Option Bool :=
  match items.lookup name with
  | none => some otherwise
  | some (.flag b) => some b
  | some _ => none

/-- The settings of a file; what it does not mention has its default, and unknown names do not
matter. -/
def ofText? (s : String) : Option Settings := do
  let items ← Toml.parse? s
  let storePath ← text? items "store_path" default.storePath
  let logLevel ← text? items "log_level" default.logLevel
  let forwardOnly ← flag? items "forward_only" default.forwardOnly
  pure ⟨storePath, logLevel, forwardOnly⟩

/-- The settings of the file, or the defaults if it does not exist. -/
def ofDisk (d : Disk) : Except SettingsError Settings :=
  if d.contains path then
    match d.readText path with
    | .error e => .error (.disk e)
    | .ok text =>
      match ofText? text with
      | some s => .ok s
      | none => .error .unreadable
  else .ok default

/-- The settings in force. -/
def load (d : Disk) (environment : Environment) : Except SettingsError Settings := do
  let s ← ofDisk d
  match Environment.text? environment.storePath with
  | some storePath => if storePath = "" then pure s else pure { s with storePath }
  | none => pure s

end Settings

end EscrowLedger
