import EscrowLedger.Json.Value
import EscrowLedger.Text.Digits

/-!
# JSON tokens

Scanning turns a text into tokens, one character at a time. The scanner is a transition system: a
state, a step for every character, and what is left to say at the end of the text. A character that
cannot stand where it stands ends the tokens with `Token.fault`; nothing after it is looked at.

A string with an unpaired surrogate escape is well formed as a token but names no text. It becomes
`Token.string none`, because such a string is harmless where its content does not matter.

## Main definitions

* `Json.Token` — the tokens.
* `Json.Scanner` — the state between two characters, with `Scanner.step` and `Scanner.finish`.
* `Json.tokens` — the tokens of a text.
-/

namespace EscrowLedger.Json

/-- A token of a JSON text. -/
inductive Token where
  | openBrace
  | closeBrace
  | openBracket
  | closeBracket
  | colon
  | comma
  | null
  | bool (value : Bool)
  | number (value : Number)
  /-- A string, with its content unless a surrogate stands alone in it. -/
  | string (content : Option String)
  /-- The text cannot be continued into JSON from here. -/
  | fault
deriving DecidableEq

/-- Where the scanner stands inside a string. -/
inductive StringPlace where
  /-- Between two characters of the content. -/
  | plain
  /-- After a backslash. -/
  | escaped
  /-- Inside the four digits of a `\u` escape, with the count and the value of those read. -/
  | unit (count value : Nat)
deriving DecidableEq

/-- What the scanner knows of a string that it is reading. -/
structure StringState where
  /-- The content so far, last character first, unless it can no longer be a text. -/
  content : Option (List Char)
  /-- A first half of a surrogate pair that waits for its second half. -/
  pending : Option Nat
  place : StringPlace
deriving DecidableEq

/-- Where the scanner stands inside a number. -/
inductive NumberPlace where
  /-- After the minus sign. -/
  | sign
  /-- After a whole part that is the digit zero. -/
  | zero
  /-- Inside any other whole part. -/
  | whole
  /-- After the point. -/
  | point
  /-- Inside the fraction. -/
  | fraction
  /-- After the letter that opens the exponent. -/
  | mark
  /-- After the sign of the exponent. -/
  | markSign
  /-- Inside the digits of the exponent. -/
  | exponent
deriving DecidableEq

/-- What the scanner knows of a number that it is reading. -/
structure NumberState where
  place : NumberPlace
  negative : Bool
  whole : Nat
  /-- The digits after the point, last digit first. -/
  fraction : List (Fin 10)
  exponentNegative : Bool
  exponent : Nat
deriving DecidableEq

/-- The state of the scanner between two characters. -/
inductive Scanner where
  /-- Between two tokens. -/
  | between
  /-- Inside a bare word, with the characters that must follow. -/
  | word (left : List Char) (token : Token)
  | string (state : StringState)
  | number (state : NumberState)
  /-- After a fault. -/
  | stopped
deriving DecidableEq

def isBlankChar (c : Char) : Bool := c = ' ' || c = '\n' || c = '\t' || c = '\r'

def unescape? (c : Char) : Option Char :=
  match c with
  | '"' => some '"'
  | '\\' => some '\\'
  | '/' => some '/'
  | 'b' => some '\x08'
  | 'f' => some '\x0c'
  | 'n' => some '\n'
  | 'r' => some '\r'
  | 't' => some '\t'
  | _ => none

namespace StringState

def start : StringState := ⟨some [], none, .plain⟩

/-- Appends a character; a first half of a pair in front of it stays alone. -/
def push (s : StringState) (c : Char) : StringState :=
  ⟨if s.pending.isSome then none else s.content.map (c :: ·), none, .plain⟩

/-- Appends the unit of a `\u` escape: a character, half of a pair, or a half that stands alone. -/
def pushUnit (s : StringState) (u : Nat) : StringState :=
  match s.pending with
  | some h =>
    if 0xDC00 ≤ u ∧ u < 0xE000 then
      let c := Char.ofNat (0x10000 + (h - 0xD800) * 0x400 + (u - 0xDC00))
      ⟨s.content.map (c :: ·), none, .plain⟩
    else ⟨none, none, .plain⟩
  | none =>
    if 0xD800 ≤ u ∧ u < 0xDC00 then ⟨s.content, some u, .plain⟩
    else if 0xDC00 ≤ u ∧ u < 0xE000 then ⟨none, none, .plain⟩
    else ⟨s.content.map (Char.ofNat u :: ·), none, .plain⟩

def token (s : StringState) : Token :=
  .string (if s.pending.isSome then none else s.content.map fun cs => String.ofList cs.reverse)

/-- The next state inside the string, unless the character cannot stand there. The closing quote
is not the business of this function. -/
def step? (s : StringState) (c : Char) : Option StringState :=
  match s.place with
  | .plain =>
    if c = '\\' then some { s with place := .escaped }
    else if c.toNat < 0x20 then none
    else some (s.push c)
  | .escaped =>
    if c = 'u' then some { s with place := .unit 0 0 }
    else (unescape? c).map s.push
  | .unit count value =>
    match Text.hexValue? c with
    | none => none
    | some d =>
      if count = 3 then some (s.pushUnit (16 * value + d.val))
      else some { s with place := .unit (count + 1) (16 * value + d.val) }

end StringState

namespace NumberState

def start (place : NumberPlace) (negative : Bool) (whole : Nat) : NumberState :=
  ⟨place, negative, whole, [], false, 0⟩

/-- The next state inside the number, if the character belongs to it. -/
def step? (s : NumberState) (c : Char) : Option NumberState :=
  match s.place, Text.digitValue? c with
  | .sign, some d => some { s with place := if d.val = 0 then .zero else .whole, whole := d.val }
  | .whole, some d => some { s with whole := 10 * s.whole + d.val }
  | .point, some d => some { s with place := .fraction, fraction := [d] }
  | .fraction, some d => some { s with fraction := d :: s.fraction }
  | .mark, some d => some { s with place := .exponent, exponent := d.val }
  | .markSign, some d => some { s with place := .exponent, exponent := d.val }
  | .exponent, some d => some { s with exponent := 10 * s.exponent + d.val }
  | .zero, none => if c = '.' then some { s with place := .point }
    else if c = 'e' ∨ c = 'E' then some { s with place := .mark } else none
  | .whole, none => if c = '.' then some { s with place := .point }
    else if c = 'e' ∨ c = 'E' then some { s with place := .mark } else none
  | .fraction, none => if c = 'e' ∨ c = 'E' then some { s with place := .mark } else none
  | .mark, none =>
    if c = '-' then some { s with place := .markSign, exponentNegative := true }
    else if c = '+' then some { s with place := .markSign } else none
  | _, _ => none

/-- The number, if it may end here. -/
def value? (s : NumberState) : Option Number :=
  match s.place with
  | .zero => some ⟨s.negative, s.whole, [], none⟩
  | .whole => some ⟨s.negative, s.whole, [], none⟩
  | .fraction => some ⟨s.negative, s.whole, s.fraction.reverse, none⟩
  | .exponent =>
    let size : Int := s.exponent
    let exponent := if s.exponentNegative then -size else size
    some ⟨s.negative, s.whole, s.fraction.reverse, some exponent⟩
  | _ => none

/-- Whether a character may follow the number at once. A digit after a leading zero may not. -/
def mayFollow (s : NumberState) (c : Char) : Bool :=
  s.place ≠ .zero || (Text.digitValue? c).isNone

end NumberState

namespace Scanner

def halt : List Token × Scanner := ([.fault], .stopped)

def start (c : Char) : List Token × Scanner :=
  if isBlankChar c then ([], .between)
  else
    match c with
    | '\x7b' => ([.openBrace], .between)
    | '\x7d' => ([.closeBrace], .between)
    | '[' => ([.openBracket], .between)
    | ']' => ([.closeBracket], .between)
    | ':' => ([.colon], .between)
    | ',' => ([.comma], .between)
    | '"' => ([], .string .start)
    | 'n' => ([], .word ['u', 'l', 'l'] .null)
    | 't' => ([], .word ['r', 'u', 'e'] (.bool true))
    | 'f' => ([], .word ['a', 'l', 's', 'e'] (.bool false))
    | '-' => ([], .number (.start .sign true 0))
    | _ =>
      match Text.digitValue? c with
      | some d => ([], .number (.start (if d.val = 0 then .zero else .whole) false d.val))
      | none => halt

def step : Scanner → Char → List Token × Scanner
  | .between, c => start c
  | .word [] _, _ => halt
  | .word [x] token, c => if c = x then ([token], .between) else halt
  | .word (x :: y :: left) token, c => if c = x then ([], .word (y :: left) token) else halt
  | .string s, c =>
    if c = '"' ∧ s.place = .plain then ([s.token], .between)
    else
      match s.step? c with
      | some s' => ([], .string s')
      | none => halt
  | .number s, c =>
    match s.step? c with
    | some s' => ([], .number s')
    | none =>
      match s.value? with
      | some n => if s.mayFollow c then (.number n :: (start c).1, (start c).2) else halt
      | none => halt
  | .stopped, _ => ([], .stopped)

def finish : Scanner → List Token
  | .between => []
  | .word _ _ => [.fault]
  | .string _ => [.fault]
  | .number s =>
    match s.value? with
    | some n => [.number n]
    | none => [.fault]
  | .stopped => []

def scan : Scanner → List Char → List Token
  | s, [] => s.finish
  | s, c :: cs =>
    let next := s.step c
    next.1 ++ scan next.2 cs

end Scanner

def tokens (cs : List Char) : List Token := Scanner.scan .between cs

end EscrowLedger.Json
