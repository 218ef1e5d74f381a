import EscrowLedger.Text.Space

/-!
# Patterns

Log levels compare the values of fields with regular expressions. The program has no use for what a
pattern matches, but a pattern that cannot be used makes its directive void, so these modules say
which patterns can be used.

A comma ends a directive, an equals sign ends a value, and a closing brace ends the fields. So the
text of a pattern holds none of the first two, and no closing brace behind an opening one. Counts of
repetitions, and whatever else stands in braces, can therefore never be complete.

The properties of characters are known for ASCII only. What needs them for all of Unicode cannot be
used: kinds of characters, edges of words, and letters that stand for both their cases.

## Main definitions

* `Pattern.Mode` — how the text of a pattern is understood.
* `Pattern.Mode.skip` — passes over what stands for nothing.
* `Pattern.Row` — the parts that stand side by side in a pattern.
-/

namespace EscrowLedger.Pattern

/-- How the text of a pattern is understood, which can change from one place to the next. -/
structure Mode where
  /-- White space and remarks stand for nothing. -/
  isSpaced : Bool
  /-- Letters stand for both their cases. -/
  ignoresCase : Bool
  /-- A pattern is about the characters of Unicode; otherwise it is about bytes. -/
  isUnicode : Bool
deriving DecidableEq

namespace Mode

def standard : Mode := ⟨false, false, true⟩

/-- Whether a character may be a member of a class, or be given by the number of a byte. In bytes
nothing but ASCII may be given, since other bytes are no text on their own. -/
def admitsMember (m : Mode) (c : Char) : Bool :=
  if m.isUnicode then !m.ignoresCase else c.toNat < 128

/-- Whether a class may be turned into its complement. The complement of some bytes is no text. -/
def admitsComplement (m : Mode) : Bool := m.isUnicode

end Mode

/-- What is left of a text after leading white space and remarks. A remark goes from a number sign
to the end of its line. -/
def skipRemarks : (inRemark : Bool) → List Char → List Char
  | _, [] => []
  | true, c :: cs => skipRemarks (c ≠ '\n') cs
  | false, c :: cs =>
    if Text.isSpace c then skipRemarks false cs
    else if c = '#' then skipRemarks true cs
    else c :: cs

/-- What is left of a text after all that stands for nothing at its start. -/
def Mode.skip (m : Mode) (cs : List Char) : List Char :=
  if m.isSpaced then skipRemarks false cs else cs

/-- Parts that stand side by side. The depth of a part counts what it is nested in itself. -/
structure Row where
  size : Nat
  /-- The depth of the deepest part. -/
  deepest : Nat
  /-- The depth of the last part, if it is one that can be repeated. -/
  last? : Option Nat

namespace Row

def empty : Row := ⟨0, 0, none⟩

def add (r : Row) (depth : Nat) : Row := ⟨r.size + 1, max r.deepest depth, some depth⟩

/-- Adds a part that cannot be repeated and is not nested. -/
def addMark (r : Row) : Row := ⟨r.size + 1, r.deepest, none⟩

/-- Repeats the last part. -/
def repeatLast? (r : Row) : Option Row :=
  r.last?.map fun depth => ⟨r.size, max r.deepest (depth + 1), some (depth + 1)⟩

/-- The depth of a row; a single part is a row of its own depth. -/
def depth (r : Row) : Nat := if r.size ≤ 1 then r.deepest else r.deepest + 1

end Row

end EscrowLedger.Pattern
