import EscrowLedger.Pattern.Symbol

/-!
# Classes of characters

A class stands in brackets. Its members are characters, ranges, kinds of characters and further
classes, and operators between members make an operand of all that stands before them.

## Main definitions

* `Pattern.OpenClass` — a class that is being read.
* `Pattern.member?` — reads a character, a range or a kind.
* `Pattern.class?` — reads a class behind its first bracket.
-/

namespace EscrowLedger.Pattern

/-- A class that is being read. -/
structure OpenClass where
  /-- The members behind the last operator. -/
  members : Row
  /-- The depth of the operand before the last operator. -/
  operand? : Option Nat
  /-- Nothing but hyphens has been read. -/
  isFresh : Bool

namespace OpenClass

def add (k : OpenClass) (depth : Nat) : OpenClass := ⟨k.members.add depth, k.operand?, false⟩

def depth (k : OpenClass) : Nat :=
  match k.operand? with
  | none => k.members.depth
  | some depth => max depth k.members.depth + 1

def operate (k : OpenClass) : OpenClass := ⟨.empty, some k.depth, false⟩

end OpenClass

def classNames : List String :=
  ["alnum", "alpha", "ascii", "blank", "cntrl", "digit", "graph", "lower", "print", "punct",
    "space", "upper", "word", "xdigit"]

/-- Reads a class between colons behind its bracket, and tells whether it is a complement. -/
def namedClass? : List Char → Option (Bool × List Char)
  | ':' :: cs =>
    let (negated, cs) :=
      match cs with
      | '^' :: rest => (true, rest)
      | _ => (false, cs)
    match cs.dropWhile (· ≠ ':') with
    | ':' :: ']' :: rest =>
      if String.ofList (cs.takeWhile (· ≠ ':')) ∈ classNames then some (negated, rest) else none
    | _ => none
  | _ => none

/-- The character that decides whether a hyphen in front of it is a member. A number sign that starts
a remark is passed over, but not the remark itself. -/
def Mode.behindHyphen? (m : Mode) (cs : List Char) : Option Char :=
  if m.isSpaced then
    match Text.skipSpaces cs with
    | '#' :: rest => (Text.skipSpaces rest).head?
    | rest => rest.head?
  else cs.head?

def classSymbol? (m : Mode) : List Char → Option (Symbol × List Char)
  | [] => none
  | '\\' :: cs => escape? m cs
  | c :: cs => some (.character c, cs)

def Symbol.character? : Symbol → Option Char
  | .character c => some c
  | .byte c => some c
  | _ => none

def Symbol.isMember (m : Mode) : Symbol → Bool
  | .character c => m.admitsMember c
  | .byte c => m.admitsMember c
  | .kind negated => Symbol.isUsable m (.kind negated)
  | _ => false

/-- What follows a character, a range or a kind of characters. -/
def member? (m : Mode) (cs : List Char) : Option (List Char) := do
  let (first, cs) ← classSymbol? m cs
  let single := if first.isMember m then some (m.skip cs) else none
  match m.skip cs with
  | '-' :: rest =>
    if m.behindHyphen? rest = some ']' || m.behindHyphen? rest = some '-' then single
    else
      let (last, rest) ← classSymbol? m (m.skip rest)
      let low ← first.character?
      let high ← last.character?
      if low ≤ high && m.admitsMember low && m.admitsMember high then some rest else none
  | _ => single

def openClass? (m : Mode) (cs : List Char) : Option (OpenClass × List Char) :=
  let start : OpenClass := ⟨.empty, none, true⟩
  match m.skip cs with
  | '^' :: rest => if m.admitsComplement then some (start, rest) else none
  | cs => some (start, cs)

/-- Reads on in a class and the classes around it, and gives the depth of the outermost. Each step
takes at least one character, so as many steps as characters suffice. -/
def membersIn? (m : Mode) :
    (steps : Nat) → OpenClass → List OpenClass → List Char → Option (Nat × List Char)
  | 0, _, _, _ => none
  | steps + 1, k, outer, cs =>
    let single (c : Char) (k : OpenClass) (rest : List Char) : Option (Nat × List Char) :=
      if m.admitsMember c then membersIn? m steps k outer rest else none
    match k.isFresh, m.skip cs with
    | _, [] => none
    | true, '-' :: rest => single '-' ⟨k.members.add 0, none, true⟩ rest
    | fresh, ']' :: rest =>
      if fresh && k.members.size = 0 then single ']' (k.add 0) rest
      else
        match outer with
        | [] => some (k.depth + 1, rest)
        | o :: outer => membersIn? m steps (o.add (k.depth + 1)) outer rest
    | _, '[' :: rest =>
      match namedClass? rest with
      | some (negated, rest) =>
        if m.admitsMember 'a' && (m.admitsComplement || !negated) then
          membersIn? m steps (k.add 0) outer rest
        else none
      | none => do
        let (inner, rest) ← openClass? m rest
        membersIn? m steps inner (k :: outer) rest
    | _, '&' :: '&' :: rest => membersIn? m steps k.operate outer rest
    | _, '-' :: '-' :: rest => membersIn? m steps k.operate outer rest
    | _, '~' :: '~' :: rest => membersIn? m steps k.operate outer rest
    | _, cs => do membersIn? m steps (k.add 0) outer (← member? m cs)

/-- Reads a class behind its first bracket, and gives its depth. -/
def class? (m : Mode) (cs : List Char) : Option (Nat × List Char) := do
  let (k, rest) ← openClass? m cs
  membersIn? m (rest.length + 1) k [] rest

end EscrowLedger.Pattern
