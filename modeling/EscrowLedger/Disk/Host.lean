import EscrowLedger.Disk.Basic

/-!
# Hosts

What stands on a disk decides which calls of the file system make sense. Whether a call is carried
out is up to the host as well, the system that the disk belongs to. It may refuse any call, for want
of a permission or of space or because a device fails. It may also break off a write when only a part
of the content is written; then the file is there, with this part in it, and what it held before is
lost. Nothing else is known of a host, so a host is nothing but its answers.

What a host shows rests on the path and on what stands at the end of it. Before it changes something
it may look at the whole disk.

## Main definitions

* `Host` — the answers to calls of the file system.
* `Host.calm` — the host that carries out whatever makes sense.
* `Host.contains`, `Host.readText`, `Host.write`, `Host.rename`, `Host.discard` — the calls.

## Main statements

* `Host.contains_calm`, `Host.readText_calm`, `Host.write_calm` — the calls to the calm host.
-/

namespace EscrowLedger

/-- What a host makes of a call to write a file. -/
inductive Host.Fate where
  | carriedOut
  /-- Nothing is changed. -/
  | refused (reason : DiskError)
  /-- Only the first bytes of the content are written. -/
  | brokenOff (written : Nat) (reason : DiskError)

/-- The answers of a system to calls of the file system. -/
structure Host where
  /-- Whether it shows what stands at the end of a path. -/
  shows : Path → Disk.Node → Bool
  /-- Why it refuses to read what stands at the end of a path, if it does. -/
  readError? : Path → Disk.Node → Option DiskError
  writeFate : Disk → Path → ByteArray → Host.Fate
  /-- Why it refuses to rename a file, if it does. -/
  renameError? : Disk → Path → Path → Option DiskError
  /-- Why it refuses to remove a file, if it does. -/
  removeError? : Disk → Path → Option DiskError

namespace Host

/-- The host that carries out whatever makes sense. -/
def calm : Host where
  shows _ _ := true
  readError? _ _ := none
  writeFate _ _ _ := .carriedOut
  renameError? _ _ _ := none
  removeError? _ _ := none

variable (h : Host) (d : Disk) (p : Path)

/-- Whether something is seen at the end of a path. What the host does not show is not seen. -/
def contains : Bool :=
  match d.visit p with
  | .ok (_, n) => h.shows p n
  | .error _ => false

def readText : Except DiskError String := do
  let (_, n) ← d.visit p
  match h.readError? p n with
  | some e => .error e
  | none => d.readText p

/-- Gives a file a content. The disk is given in every case, since a write that fails may have changed
it. -/
def write (content : ByteArray) : Except DiskError Unit × Disk :=
  match h.writeFate d p content with
  | .carriedOut =>
    match d.write p content with
    | .ok written => (.ok (), written)
    | .error e => (.error e, d)
  | .refused e => (.error e, d)
  | .brokenOff n e =>
    match d.write p (content.extract 0 n) with
    | .ok written => (.error e, written)
    | .error e' => (.error e', d)

def rename (q : Path) : Except DiskError Disk :=
  match h.renameError? d p q with
  | some e => .error e
  | none => d.rename p q

/-- The disk without a file, if it can be removed, and unchanged otherwise. -/
def discard : Disk :=
  match h.removeError? d p with
  | some _ => d
  | none => d.discard p

@[simp] theorem contains_calm : calm.contains d p = d.contains p := by
  rw [contains, Disk.contains]
  cases d.visit p <;> rfl

@[simp] theorem readText_calm : calm.readText d p = d.readText p := by
  simp only [readText, Disk.readText, Disk.read, calm]
  cases d.visit p <;> rfl

theorem write_calm (content : ByteArray) : calm.write d p content
    = match d.write p content with
      | .ok written => (.ok (), written)
      | .error e => (.error e, d) := rfl

end Host

end EscrowLedger
