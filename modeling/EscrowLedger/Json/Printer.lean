import EscrowLedger.Json.Value
import EscrowLedger.Text.Digits

/-!
# Writing JSON

A value is written on one line without white space, or over several lines with two blanks per level
and a blank after each colon. Both forms write the members of an object in the order they have.

Inside a string only the quote, the backslash and the characters below the blank are escaped: by one
letter where JSON has one, otherwise by `\u` and four lower-case digits.

## Main definitions

* `Json.compact` — the text on one line.
* `Json.pretty` — the text over several lines.
-/

namespace EscrowLedger.Json

def escapeChar (c : Char) : List Char :=
  if c = '"' then ['\\', '"']
  else if c = '\\' then ['\\', '\\']
  else if c = '\x08' then ['\\', 'b']
  else if c = '\x0c' then ['\\', 'f']
  else if c = '\n' then ['\\', 'n']
  else if c = '\r' then ['\\', 'r']
  else if c = '\t' then ['\\', 't']
  else if c.toNat < 0x20 then
    ['\\', 'u', '0', '0', Nat.digitChar (c.toNat / 16), Nat.digitChar (c.toNat % 16)]
  else [c]

def quoted (s : String) : List Char := '"' :: (s.toList.flatMap escapeChar ++ ['"'])

namespace Number

def chars (n : Number) : List Char :=
  (if n.negative then ['-'] else []) ++ Nat.toDigits 10 n.whole
    ++ (if n.fraction.isEmpty then [] else '.' :: n.fraction.map Text.digitChar)
    ++ match n.exponent with
      | none => []
      | some e => 'e' :: ((if e < 0 then ['-'] else []) ++ Nat.toDigits 10 e.natAbs)

end Number

mutual

def compactChars : Json → List Char
  | .null => ['n', 'u', 'l', 'l']
  | .bool true => ['t', 'r', 'u', 'e']
  | .bool false => ['f', 'a', 'l', 's', 'e']
  | .number n => n.chars
  | .string s => quoted s
  | .array [] => ['[', ']']
  | .array (v :: rest) => '[' :: (compactChars v ++ (compactItems rest ++ [']']))
  | .object [] => ['\x7b', '\x7d']
  | .object ((name, v) :: rest) =>
    '\x7b' :: (quoted name ++ (':' :: (compactChars v ++ (compactMembers rest ++ ['\x7d']))))

/-- The characters of the items after the first one. -/
def compactItems : List Json → List Char
  | [] => []
  | v :: rest => ',' :: (compactChars v ++ compactItems rest)

/-- The characters of the members after the first one. -/
def compactMembers : List (String × Json) → List Char
  | [] => []
  | (name, v) :: rest => ',' :: (quoted name ++ (':' :: (compactChars v ++ compactMembers rest)))

end

def newLine (level : Nat) : List Char := '\n' :: List.replicate (2 * level) ' '

mutual

/-- The characters of a value over several lines, inside the given number of arrays and objects. -/
def prettyChars (level : Nat) : Json → List Char
  | .null => ['n', 'u', 'l', 'l']
  | .bool true => ['t', 'r', 'u', 'e']
  | .bool false => ['f', 'a', 'l', 's', 'e']
  | .number n => n.chars
  | .string s => quoted s
  | .array [] => ['[', ']']
  | .array (v :: rest) =>
    '[' :: (newLine (level + 1) ++ (prettyChars (level + 1) v
      ++ (prettyItems (level + 1) rest ++ (newLine level ++ [']']))))
  | .object [] => ['\x7b', '\x7d']
  | .object ((name, v) :: rest) =>
    '\x7b' :: (newLine (level + 1) ++ (quoted name ++ (':' :: ' ' :: (prettyChars (level + 1) v
      ++ (prettyMembers (level + 1) rest ++ (newLine level ++ ['\x7d']))))))

/-- The characters of the items after the first one. -/
def prettyItems (level : Nat) : List Json → List Char
  | [] => []
  | v :: rest => ',' :: (newLine level ++ (prettyChars level v ++ prettyItems level rest))

/-- The characters of the members after the first one. -/
def prettyMembers (level : Nat) : List (String × Json) → List Char
  | [] => []
  | (name, v) :: rest =>
    ',' :: (newLine level ++ (quoted name ++ (':' :: ' ' :: (prettyChars level v
      ++ prettyMembers level rest))))

end

def compact (v : Json) : String := String.ofList (compactChars v)

def pretty (v : Json) : String := String.ofList (prettyChars 0 v)

end EscrowLedger.Json
