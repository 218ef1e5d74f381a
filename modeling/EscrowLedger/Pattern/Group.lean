import EscrowLedger.Pattern.Basic
import EscrowLedger.Text.Word

/-!
# Groups of patterns

What can stand at the start of a group: a name, or options that change the mode. Options alone
between parentheses are no group; they hold up to the end of the group around them.

## Main definitions

* `Pattern.Opening` — what a parenthesis opens.
* `Pattern.options?` — reads options.
* `Pattern.opening?` — reads what stands behind an opening parenthesis.
-/

namespace EscrowLedger.Pattern

/-- What an opening parenthesis starts. -/
inductive Opening where
  /-- A mode for what follows. -/
  | options (m : Mode)
  /-- A group with a mode of its own. -/
  | group (m : Mode)
  /-- A group with a name. -/
  | named (name : List Char)

/-- The options of patterns, with the sign that turns off those behind it. -/
def optionLetters : List Char := ['-', 'i', 'm', 's', 'U', 'R', 'u', 'x']

def Mode.withOption (m : Mode) (option : Char) (value : Bool) : Mode :=
  match option with
  | 'x' => ⟨value, m.ignoresCase, m.isUnicode⟩
  | 'i' => ⟨m.isSpaced, value, m.isUnicode⟩
  | 'u' => ⟨m.isSpaced, m.ignoresCase, value⟩
  | _ => m

/-- Reads options up to a colon or a closing parenthesis, after those that were given before. No
option is given twice, and the sign that turns options off is not the last. -/
def options? (given : List Char) (m : Mode) : List Char → Option (Opening × List Char)
  | [] => none
  | ':' :: rest => if given.head? = some '-' then none else some (.group m, rest)
  | ')' :: rest =>
    if given = [] || given.head? = some '-' then none else some (.options m, rest)
  | c :: rest =>
    if c ∈ optionLetters && c ∉ given then
      options? (c :: given) (m.withOption c ('-' ∉ given)) rest
    else none

def isGroupName : List Char → Bool
  | [] => false
  | c :: cs =>
    (Text.isLetter c || c = '_') && cs.all fun c => Text.isWord c || c ∈ ['_', '.', '[', ']']

/-- Reads the name of a group, which no group before it has. -/
def groupName? (given : List (List Char)) (cs : List Char) : Option (Opening × List Char) :=
  let name := cs.takeWhile (· ≠ '>')
  match cs.dropWhile (· ≠ '>') with
  | _ :: rest => if isGroupName name && name ∉ given then some (.named name, rest) else none
  | [] => none

def opening? (given : List (List Char)) (m : Mode) (cs : List Char) :
    Option (Opening × List Char) :=
  match m.skip cs with
  | '?' :: 'P' :: '<' :: rest => groupName? given rest
  | '?' :: '<' :: rest => groupName? given rest
  | '?' :: rest => options? [] m rest
  | rest => some (.group m, rest)

end EscrowLedger.Pattern
