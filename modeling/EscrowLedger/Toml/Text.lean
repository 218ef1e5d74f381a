import EscrowLedger.Text.Digits

/-!
# Strings of settings files

TOML has four kinds of strings: between quotes with escapes, between apostrophes as they stand, and
both of these over several lines between triple marks. A new line at once after a triple mark is not
part of the string, and every end of a line inside becomes a single character.

## Main definitions

* `Toml.Reader` — takes something off the front of a text.
* `Toml.string?` — the reader of strings.
-/

namespace EscrowLedger.Toml

/-- Takes something off the front of a text, if it stands there. -/
abbrev Reader (α : Type) := List Char → Option (α × List Char)

/-- Whether a character may stand as itself in strings and comments. -/
def isShown (c : Char) : Bool := c = '\t' || (0x20 ≤ c.toNat && c.toNat ≠ 0x7F)

def isGap (c : Char) : Bool := c = ' ' || c = '\t'

def skipGap (cs : List Char) : List Char := cs.dropWhile isGap

def lineEnd? : List Char → Option (List Char)
  | '\n' :: rest => some rest
  | '\r' :: '\n' :: rest => some rest
  | _ => none

def skipLineEnd (cs : List Char) : List Char := (lineEnd? cs).getD cs

def codePoint? (ds : List Char) : Option Char := do
  let values ← ds.mapM Text.hexValue?
  let n := values.foldl (fun n d => 16 * n + d.val) 0
  if n.isValidChar then some (Char.ofNat n) else none

def unescape? (c : Char) : Option Char :=
  match c with
  | 'b' => some '\x08'
  | 't' => some '\t'
  | 'n' => some '\n'
  | 'f' => some '\x0c'
  | 'r' => some '\r'
  | '"' => some '"'
  | '\\' => some '\\'
  | _ => none

def consOf (c : Char) (r : Option (List Char × List Char)) : Option (List Char × List Char) :=
  r.map fun r => (c :: r.1, r.2)

def quotedBody : Reader (List Char)
  | [] => none
  | '"' :: rest => some ([], rest)
  | '\\' :: 'u' :: a :: b :: c :: d :: rest =>
    match codePoint? [a, b, c, d] with
    | some x => consOf x (quotedBody rest)
    | none => none
  | '\\' :: 'U' :: a :: b :: c :: d :: e :: f :: g :: h :: rest =>
    match codePoint? [a, b, c, d, e, f, g, h] with
    | some x => consOf x (quotedBody rest)
    | none => none
  | '\\' :: c :: rest =>
    match unescape? c with
    | some x => consOf x (quotedBody rest)
    | none => none
  | c :: rest => if isShown c && c ≠ '\\' then consOf c (quotedBody rest) else none

def literalBody : Reader (List Char)
  | [] => none
  | '\x27' :: rest => some ([], rest)
  | c :: rest => if isShown c then consOf c (literalBody rest) else none

/-- What a backslash at the end of a line does to the characters after it. -/
inductive Fold where
  /-- Nothing. -/
  | off
  /-- Blanks are dropped, and an end of a line must come. -/
  | pending
  /-- Blanks and ends of lines are dropped. -/
  | dropping
deriving DecidableEq

def longQuotedBody : Fold → Reader (List Char)
  | _, [] => none
  | .pending, '\n' :: rest => longQuotedBody .dropping rest
  | .pending, '\r' :: '\n' :: rest => longQuotedBody .dropping rest
  | .pending, c :: rest => if isGap c then longQuotedBody .pending rest else none
  | .dropping, '\n' :: rest => longQuotedBody .dropping rest
  | .dropping, '\r' :: '\n' :: rest => longQuotedBody .dropping rest
  | .dropping, ' ' :: rest => longQuotedBody .dropping rest
  | .dropping, '\t' :: rest => longQuotedBody .dropping rest
  | _, '"' :: '"' :: '"' :: '"' :: '"' :: rest => some (['"', '"'], rest)
  | _, '"' :: '"' :: '"' :: '"' :: rest => some (['"'], rest)
  | _, '"' :: '"' :: '"' :: rest => some ([], rest)
  | _, '\n' :: rest => consOf '\n' (longQuotedBody .off rest)
  | _, '\r' :: '\n' :: rest => consOf '\n' (longQuotedBody .off rest)
  | _, '\\' :: 'u' :: a :: b :: c :: d :: rest =>
    match codePoint? [a, b, c, d] with
    | some x => consOf x (longQuotedBody .off rest)
    | none => none
  | _, '\\' :: 'U' :: a :: b :: c :: d :: e :: f :: g :: h :: rest =>
    match codePoint? [a, b, c, d, e, f, g, h] with
    | some x => consOf x (longQuotedBody .off rest)
    | none => none
  | _, '\\' :: c :: rest =>
    if isGap c || c = '\n' || c = '\r' then longQuotedBody .pending (c :: rest)
    else
      match unescape? c with
      | some x => consOf x (longQuotedBody .off rest)
      | none => none
  | _, c :: rest => if isShown c && c ≠ '\\' then consOf c (longQuotedBody .off rest) else none

def longLiteralBody : Reader (List Char)
  | [] => none
  | '\x27' :: '\x27' :: '\x27' :: '\x27' :: '\x27' :: rest => some (['\x27', '\x27'], rest)
  | '\x27' :: '\x27' :: '\x27' :: '\x27' :: rest => some (['\x27'], rest)
  | '\x27' :: '\x27' :: '\x27' :: rest => some ([], rest)
  | '\n' :: rest => consOf '\n' (longLiteralBody rest)
  | '\r' :: '\n' :: rest => consOf '\n' (longLiteralBody rest)
  | c :: rest => if isShown c then consOf c (longLiteralBody rest) else none

def shortString? : Reader String
  | '"' :: rest => (quotedBody rest).map fun r => (String.ofList r.1, r.2)
  | '\x27' :: rest => (literalBody rest).map fun r => (String.ofList r.1, r.2)
  | _ => none

def string? : Reader String
  | '"' :: '"' :: '"' :: rest =>
    (longQuotedBody .off (skipLineEnd rest)).map fun r => (String.ofList r.1, r.2)
  | '\x27' :: '\x27' :: '\x27' :: rest =>
    (longLiteralBody (skipLineEnd rest)).map fun r => (String.ofList r.1, r.2)
  | cs => shortString? cs

end EscrowLedger.Toml
