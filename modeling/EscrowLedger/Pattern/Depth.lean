import EscrowLedger.Pattern.Group
import EscrowLedger.Pattern.Members

/-!
# Depths of patterns

A pattern can be used if it is complete, all its symbols can be used where they stand, and it is not
nested too deeply. Classes, repetitions, groups, branches and parts side by side each add to the
depth of what they hold.

## Main definitions

* `Pattern.Level` — a group that is being read.
* `Pattern.depth?` — the depth of a pattern, if it can be read.
* `Pattern.isUsable` — whether a pattern can be used.
-/

namespace EscrowLedger.Pattern

/-- A group that is being read, or the pattern as a whole. -/
structure Level where
  mode : Mode
  /-- The parts of the branch that is being read. -/
  parts : Row
  /-- The branches before it. -/
  branches : Row

namespace Level

def start (m : Mode) : Level := ⟨m, .empty, .empty⟩

def add (l : Level) (depth : Nat) : Level := { l with parts := l.parts.add depth }

def branch (l : Level) : Level := ⟨l.mode, .empty, l.branches.add l.parts.depth⟩

def depth (l : Level) : Nat := (l.branches.add l.parts.depth).depth

end Level

def symbol? (m : Mode) : List Char → Option (Symbol × List Char)
  | [] => none
  | '\\' :: cs => escape? m cs
  | '.' :: cs => some (.any, cs)
  | '^' :: cs => some (.anchor, cs)
  | '$' :: cs => some (.anchor, cs)
  | '\x7b' :: _ => none
  | c :: cs => some (.character c, cs)

/-- What follows the sign of a repetition; a question mark behind it makes it a short one. -/
def behindRepetition : List Char → List Char
  | '?' :: cs => cs
  | cs => cs

/-- Reads on in a group and the groups around it, after groups with the given names, and gives the
depth of the whole. Each step takes at least one character, so as many steps as characters suffice,
with one more to find the end. -/
def depthFrom? :
    (steps : Nat) → Level → List Level → (given : List (List Char)) → List Char → Option Nat
  | 0, _, _, _, _ => none
  | steps + 1, l, outer, given, cs =>
    match l.mode.skip cs with
    | [] => if outer.isEmpty then some l.depth else none
    | '(' :: cs => do
      let (opening, rest) ← opening? given l.mode cs
      match opening with
      | .options m => depthFrom? steps ⟨m, l.parts.addMark, l.branches⟩ outer given rest
      | .group m => depthFrom? steps (.start m) (l :: outer) given rest
      | .named name => depthFrom? steps (.start l.mode) (l :: outer) (name :: given) rest
    | ')' :: cs =>
      match outer with
      | [] => none
      | o :: outer => depthFrom? steps (o.add (l.depth + 1)) outer given cs
    | '|' :: cs => depthFrom? steps l.branch outer given cs
    | '[' :: cs => do
      let (depth, rest) ← class? l.mode cs
      depthFrom? steps (l.add depth) outer given rest
    | c :: cs =>
      if c ∈ ['?', '*', '+'] then do
        let parts ← l.parts.repeatLast?
        depthFrom? steps { l with parts } outer given (behindRepetition cs)
      else do
        let (s, rest) ← symbol? l.mode (c :: cs)
        if s.isUsable l.mode then depthFrom? steps (l.add 0) outer given rest else none

/-- The depth of a pattern, if it can be read. -/
def depth? (cs : List Char) : Option Nat := depthFrom? (cs.length + 1) (.start .standard) [] [] cs

def depthLimit : Nat := 250

def isUsable (cs : List Char) : Bool := (depth? cs).any (· ≤ depthLimit)

end EscrowLedger.Pattern
