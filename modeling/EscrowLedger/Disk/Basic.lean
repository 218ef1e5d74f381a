import EscrowLedger.Disk.Path
import EscrowLedger.Table

/-!
# Disks

A disk holds files and directories. The working directory, the directories above it and the root are
always there; everything else is entered under its place. A path is followed name by name, and every
name before the last must be that of a directory, also where two dots lead back out of it. Names and
paths have a greatest length. There are no links, so a file stands at one place only. Operations fail
here for no other reason than what stands on the disk and how the path is written, and then they
change nothing. What else may become of them is up to a `Host`.

## Main definitions

* `Disk` — the files and directories.
* `DiskError` — why an operation fails.
* `Disk.locate`, `Disk.visit` — the place at the end of a path, and what stands there.
* `Disk.read`, `Disk.readText`, `Disk.write`, `Disk.rename`, `Disk.remove` — the operations on
  files.
* `Disk.makeDirectory`, `Disk.list` — the operations on directories.
-/

namespace EscrowLedger

/-- What stands at a place of a disk. -/
inductive Disk.Node where
  | file (content : ByteArray)
  | directory

/-- Files are equal if their bytes are. -/
instance : DecidableEq Disk.Node
  | .file a, .file b =>
    if h : a.data = b.data then .isTrue (by rw [ByteArray.ext h])
    else .isFalse fun e => h (by cases e; rfl)
  | .directory, .directory => .isTrue rfl
  | .file _, .directory => .isFalse nofun
  | .directory, .file _ => .isFalse nofun

/-- The files and directories of a disk, without those that are always there. -/
structure Disk where
  nodes : Table Location Disk.Node
deriving DecidableEq

/-- Why an operation on a disk fails. -/
inductive DiskError where
  | notFound
  | alreadyExists
  | notDirectory
  | isDirectory
  | nameTooLong
  /-- A path holds a character that no path can hold. -/
  | nulInPath
  /-- The content of a file is no text. -/
  | notText
  /-- The system refuses a call for a reason of its own, which it says in its own words. -/
  | system (message : String)
deriving DecidableEq

def DiskError.message : DiskError → String
  | .notFound => "No such file or directory (os error 2)"
  | .alreadyExists => "File exists (os error 17)"
  | .notDirectory => "Not a directory (os error 20)"
  | .isDirectory => "Is a directory (os error 21)"
  | .nameTooLong => "File name too long (os error 36)"
  | .nulInPath => "file name contained an unexpected NUL byte"
  | .notText => "stream did not contain valid UTF-8"
  | .system message => message

namespace Disk

def empty : Disk := ⟨∅⟩

instance : Inhabited Disk := ⟨empty⟩

/-- Whether a place is a directory on every disk. -/
def isFixed (place : Location) : Bool := place.all (· = "..") || place = ["/"]

def node? (d : Disk) (place : Location) : Option Node :=
  if isFixed place then some .directory else d.nodes.get? place

def nameLimit : Nat := 255

def pathLimit : Nat := 4095

def isOverlong (place : Location) : Bool :=
  match place.getLast? with
  | some name => nameLimit < name.utf8ByteSize
  | none => false

def absence (place : Location) : DiskError :=
  if isOverlong place then .nameTooLong else .notFound

/-- The place that names lead to from a place. Every step starts in a directory. -/
def follow (d : Disk) (place : Location) : List String → Except DiskError Location
  | [] => .ok place
  | name :: names =>
    match d.node? place with
    | some .directory => d.follow (Path.enter place name) names
    | some (.file _) => .error .notDirectory
    | none => .error (absence place)

/-- The place that a path leads to, whether or not something stands there. -/
def locate (d : Disk) (p : Path) : Except DiskError Location :=
  if p.hasNul then .error .nulInPath
  else if pathLimit < p.toText.utf8ByteSize then .error .nameTooLong
  else if p.isEmpty then .error .notFound
  else d.follow p.start p.names

def visit (d : Disk) (p : Path) : Except DiskError (Location × Node) := do
  let place ← d.locate p
  match d.node? place with
  | none => .error (absence place)
  | some .directory => .ok (place, .directory)
  | some (.file content) =>
    if p.isDirectory then .error .notDirectory else .ok (place, .file content)

def contains (d : Disk) (p : Path) : Bool :=
  match d.visit p with
  | .ok _ => true
  | .error _ => false

def read (d : Disk) (p : Path) : Except DiskError ByteArray := do
  match ← d.visit p with
  | (_, .file content) => .ok content
  | (_, .directory) => .error .isDirectory

def readText (d : Disk) (p : Path) : Except DiskError String := do
  let content ← d.read p
  match String.fromUTF8? content with
  | some s => .ok s
  | none => .error .notText

/-- Gives a file a content; the file need not exist, but its directory must. -/
def write (d : Disk) (p : Path) (content : ByteArray) : Except DiskError Disk := do
  let place ← d.locate p
  if p.isDirectory || d.node? place = some .directory then .error .isDirectory
  else if isOverlong place then .error .nameTooLong
  else .ok ⟨d.nodes.insert place (.file content)⟩

def rename (d : Disk) (p q : Path) : Except DiskError Disk := do
  let old ← d.locate p
  let new ← d.locate q
  match d.node? old with
  | none => .error (absence old)
  | some .directory => .error .isDirectory
  | some (.file content) =>
    if isOverlong new then .error .nameTooLong
    else if p.isDirectory || q.isDirectory then .error .notDirectory
    else if d.node? new = some .directory then .error .isDirectory
    else .ok ⟨(d.nodes.erase old).insert new (.file content)⟩

def remove (d : Disk) (p : Path) : Except DiskError Disk := do
  match ← d.visit p with
  | (place, .file _) => .ok ⟨d.nodes.erase place⟩
  | (_, .directory) => .error .isDirectory

/-- The disk without a file, if it can be removed, and unchanged otherwise. -/
def discard (d : Disk) (p : Path) : Disk :=
  match d.remove p with
  | .ok d' => d'
  | .error _ => d

def makeDirectory (d : Disk) (p : Path) : Except DiskError Disk := do
  let place ← d.locate p
  if (d.node? place).isSome then .error .alreadyExists
  else if isOverlong place then .error .nameTooLong
  else .ok ⟨d.nodes.insert place .directory⟩

def list (d : Disk) (p : Path) : Except DiskError (List String) := do
  match ← d.visit p with
  | (place, .directory) =>
    .ok (d.nodes.entries.filterMap fun e => if e.1.dropLast = place then e.1.getLast? else none)
  | (_, .file _) => .error .notDirectory

end Disk

end EscrowLedger
