import EscrowLedger.Text.Pieces

/-!
# Paths

A path is a text that leads from the root or from the working directory to a file, with the names on
the way between slashes. The empty path leads nowhere.

## Main definitions

* `Path` — the parts of the text between the slashes.
* `Path.ofText`, `Path.toText` — between paths and their texts.
* `Path.names` — the names on the way.
* `Path.start`, `Path.enter` — the place where a path starts, and one step from a place.
* `Path.withExtension` — the path with another extension of its file name.
-/

namespace EscrowLedger

/-- A way to a file: the parts of its text between the slashes, in order. -/
structure Path where
  parts : List String
deriving DecidableEq, Inhabited

/-- A place on a disk: the names that lead there from the working directory, or the name `/` and the
names that lead there from the root. Two dots stand at the start only, for what lies above the
working directory. -/
abbrev Location := List String

namespace Path

def ofText (s : String) : Path := ⟨(Text.pieces '/' s.toList).map String.ofList⟩

def toText (p : Path) : String := "/".intercalate p.parts

/-- The names on the way, among them the single and the two dots. Several slashes are as good as
one. -/
def names (p : Path) : List String := p.parts.filter (· ≠ "")

def hasSlash (p : Path) : Bool := 1 < p.parts.length

/-- Whether a path starts at the root, and not in the working directory. -/
def isAbsolute (p : Path) : Bool := p.hasSlash && p.parts.head? = some ""

/-- Whether a slash stands at the end of a path, so that only a directory is meant. -/
def isDirectory (p : Path) : Bool := p.hasSlash && p.parts.getLast? = some ""

def isEmpty (p : Path) : Bool := p.toText = ""

/-- Whether a path holds the character that no path can hold. -/
def hasNul (p : Path) : Bool := p.parts.any fun part => part.toList.any (· = '\x00')

def start (p : Path) : Location := if p.isAbsolute then ["/"] else []

/-- One step from a place: two dots lead up, one dot leads nowhere. The root is its own parent. -/
def enter (place : Location) (name : String) : Location :=
  if name = "." then place
  else if name = ".." then
    if place = ["/"] then place
    else if place.all (· = "..") then place ++ [".."]
    else place.dropLast
  else place ++ [name]

/-- The part of a file name before its last dot. A dot at the start does not count. -/
def stem (name : String) : String :=
  let backwards := name.toList.reverse
  let later := backwards.dropWhile (· ≠ '.')
  match later with
  | _ :: c :: cs => String.ofList (c :: cs).reverse
  | _ => name

/-- The path with another extension of its file name, which is the last name behind all single dots
and slashes at the end. A path that leads up at its end has no file name and stays as it is. The old
extension is taken off the end of the path first, so a file name whose stem is a single dot, like
`..json`, becomes two dots, which lead up and take no extension; if a slash or a single dot follows
the name, the loss falls on these, and the stem is kept. -/
def withExtension (p : Path) (extension : String) : Path :=
  match p.parts.reverse.dropWhile (fun part => part = "" || part = ".") with
  | [] => p
  | name :: before =>
    if name = ".." then p
    else
      let endsPath := before.length + 1 = p.parts.length
      let renamed := if stem name = "." ∧ endsPath then ".." else stem name ++ "." ++ extension
      ⟨(renamed :: before).reverse⟩

end Path

end EscrowLedger
