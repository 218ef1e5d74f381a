import EscrowLedger.Pattern.Basic
import EscrowLedger.Text.Digits

/-!
# Symbols of patterns

The smallest parts of a pattern: characters, and what a dot, an anchor or an escape stands for.

## Main definitions

* `Pattern.Symbol` — what a symbol stands for.
* `Pattern.Symbol.isUsable` — whether a symbol can be used under a mode.
* `Pattern.escape?` — reads a symbol behind a backslash.
-/

namespace EscrowLedger.Pattern

/-- What a symbol of a pattern stands for. -/
inductive Symbol where
  | character (c : Char)
  /-- A character that is given by a number of two hexadecimal digits. -/
  | byte (c : Char)
  /-- The digits, the white space or the characters of words, or all but these. -/
  | kind (negated : Bool)
  /-- Any character. -/
  | any
  /-- An end of a line or of the text. -/
  | anchor
  /-- An edge of a word, or a place that is none. -/
  | edge
deriving DecidableEq

def Symbol.isUsable (m : Mode) : Symbol → Bool
  | .character _ => !(m.isUnicode && m.ignoresCase)
  | .byte c => m.admitsMember c
  | .kind negated => !m.isUnicode && !negated
  | .any => m.isUnicode
  | .anchor => true
  | .edge => !m.isUnicode

def hexNumber? (m : Mode) : (digits value : Nat) → List Char → Option (Nat × List Char)
  | 0, value, cs => some (value, cs)
  | digits + 1, value, cs =>
    match m.skip cs with
    | c :: rest => do hexNumber? m digits (16 * value + (← Text.hexValue? c)) rest
    | [] => none

/-- Reads a character that is given by a number of so many hexadecimal digits. -/
def numbered? (m : Mode) (digits : Nat) (cs : List Char) : Option (Char × List Char) := do
  let (n, rest) ← hexNumber? m digits 0 cs
  if n.isValidChar then some (Char.ofNat n, rest) else none

/-- The symbol of a single character behind a backslash. Letters and digits without a meaning are
refused; all other characters of ASCII stand for themselves. -/
def named? (c : Char) : Option Symbol :=
  match c with
  | 'd' | 's' | 'w' => some (.kind false)
  | 'D' | 'S' | 'W' => some (.kind true)
  | 'a' => some (.character '\x07')
  | 'f' => some (.character '\x0c')
  | 't' => some (.character '\t')
  | 'n' => some (.character '\n')
  | 'r' => some (.character '\r')
  | 'v' => some (.character '\x0b')
  | 'A' | 'z' => some .anchor
  | 'b' | 'B' | '<' | '>' => some .edge
  | _ => if c.toNat < 128 && !c.isAlphanum then some (.character c) else none

def escape? (m : Mode) : List Char → Option (Symbol × List Char)
  | [] => none
  | 'x' :: cs => (numbered? m 2 cs).map fun r => (.byte r.1, r.2)
  | 'u' :: cs => (numbered? m 4 cs).map fun r => (.character r.1, r.2)
  | 'U' :: cs => (numbered? m 8 cs).map fun r => (.character r.1, r.2)
  | c :: cs => (named? c).map fun s => (s, cs)

end EscrowLedger.Pattern
