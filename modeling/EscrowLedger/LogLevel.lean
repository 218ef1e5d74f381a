import EscrowLedger.Pattern.Depth
import EscrowLedger.Text.Pieces
import EscrowLedger.Text.Slice
import EscrowLedger.Text.Space
import EscrowLedger.Text.Word

/-!
# Log levels

A log level is a list of directives with commas between them. A directive names a target, then a
span and its fields in brackets and braces, and a level after an equals sign; each of them can be
left out.

The places of the parts are found in the directive without the white space around it, but the parts
are cut out of the directive as it stands. White space at its start therefore shifts every cut, and
a cut can fall inside a character that takes several bytes. A log level with such a directive cannot
be used. A directive that makes no sense is passed over, or the whole log level is given up for it;
either way no further part of it is cut out.

## Main definitions

* `LogLevel.Reading` — what becomes of a directive.
* `LogLevel.isField`, `LogLevel.isLevel` — whether a field of a span and a level make sense.
* `LogLevel.readFrom`, `LogLevel.readDirective` — reads a directive.
* `LogLevel.isUsable` — whether a log level can be used.
* `LogLevel.readAll` — reads a log level that is given up at the first directive without sense.
-/

namespace EscrowLedger.LogLevel

/-- What becomes of a directive. -/
inductive Reading where
  | understood
  /-- It makes no sense. -/
  | senseless
  /-- A cut falls inside a character. -/
  | torn
deriving DecidableEq

/-- The part of a directive that is being read, with the offset where it starts. -/
inductive Part where
  /-- Nothing has been read. -/
  | blank
  /-- A target, or a level without one. -/
  | target
  | span (start : Nat)
  | field (start : Nat)
  /-- After the fields of a span. -/
  | fields
  /-- After a span. -/
  | closed
  | level (start : Nat)
deriving DecidableEq

def isMagnitude (cs : List Char) : Bool :=
  let whole := cs.takeWhile Char.isDigit
  let (fraction, rest) :=
    match cs.dropWhile Char.isDigit with
    | '.' :: rest => (rest.takeWhile Char.isDigit, rest.dropWhile Char.isDigit)
    | rest => ([], rest)
  let isExponent (ds : List Char) : Bool := !ds.isEmpty && ds.all Char.isDigit
  !(whole.isEmpty && fraction.isEmpty) &&
    match rest with
    | [] => true
    | e :: rest =>
      (e = 'e' || e = 'E') &&
        match rest with
        | '+' :: ds => isExponent ds
        | '-' :: ds => isExponent ds
        | ds => isExponent ds

/-- The names of what is no finite number. -/
def magnitudeNames : List String := ["inf", "infinity", "nan"]

def isNumber (cs : List Char) : Bool :=
  let unsigned :=
    match cs with
    | '+' :: rest => rest
    | '-' :: rest => rest
    | _ => cs
  isMagnitude unsigned || String.ofList (unsigned.map Char.toLower) ∈ magnitudeNames

/-- Whether the value of a field can be used; it is a number or a pattern. -/
def isValue (value : List Char) : Bool := isNumber value || Pattern.isUsable value

/-- Whether a field of a span makes sense. A field is a name, with or without an equals sign and a
value behind it. What stands behind a second equals sign does not count. -/
def isField (field : List Char) : Bool := field ≠ [] && (Text.pieces '=' field)[1]?.all isValue

/-- The names of the levels. -/
def levelNames : List String := ["error", "warn", "info", "debug", "trace", "off"]

/-- Whether a level makes sense. Levels have names and the numbers up to five, and where no level is
given the greatest one is meant. -/
def isLevel (level : List Char) : Bool :=
  let digits :=
    match level with
    | '+' :: ds => ds
    | _ => level
  level = [] || String.ofList (level.map Char.toLower) ∈ levelNames ||
    !digits.isEmpty && digits.all Char.isDigit && Nat.ofDigitChars 10 digits 0 ≤ 5

def startsTarget (c : Char) : Bool := Text.isWord c || c = '-' || c = ':' || c = '_'

/-- Reads a directive on from an offset at which some part is being read and the given characters
follow. -/
def readFrom (text : List Char) : (offset : Nat) → Part → List Char → Reading
  | _, .level start, [] =>
    match Text.dropBytes? text start with
    | none => .torn
    | some level => if isLevel level then .understood else .senseless
  | _, .target, [] => .understood
  | _, .closed, [] => .understood
  | _, _, [] => .senseless
  | offset, part, c :: cs =>
    let next := offset + c.utf8Size
    let isCut (start : Nat) : Bool := (Text.slice? text start offset).isSome
    match part with
    | .blank =>
      if c = '[' then readFrom text next (.span next) cs
      else if startsTarget c then readFrom text next .target cs
      else .senseless
    | .target =>
      if c = '=' then if isCut 0 then readFrom text next (.level next) cs else .torn
      else if c = '[' then if isCut 0 then readFrom text next (.span next) cs else .torn
      else readFrom text next .target cs
    | .span start =>
      if c = ']' then if isCut start then readFrom text next .closed cs else .torn
      else if c = '\x7b' then if isCut start then readFrom text next (.field next) cs else .torn
      else readFrom text next (.span start) cs
    | .field start =>
      if c = '\x7d' then
        match Text.slice? text start offset with
        | none => .torn
        | some field => if isField field then readFrom text next .fields cs else .senseless
      else readFrom text next (.field start) cs
    | .fields => if c = ']' then readFrom text next .closed cs else .senseless
    | .closed => if c = '=' then readFrom text next (.level next) cs else .senseless
    | .level start => readFrom text next (.level start) cs

def readDirective (directive : List Char) : Reading :=
  let trimmed := (Text.skipSpaces (Text.skipSpaces directive).reverse).reverse
  readFrom directive 0 .blank trimmed

/-- The directives of a log level. Nothing between two commas is no directive. -/
def directives (level : String) : List (List Char) :=
  (Text.pieces ',' level.toList).filter (· ≠ [])

/-- Whether a log level can be used whose directives without sense are passed over. -/
def isUsable (level : String) : Bool := (directives level).all (readDirective · ≠ .torn)

/-- Reads directives up to the first one that is not understood. -/
def readAll : List (List Char) → Reading
  | [] => .understood
  | d :: ds =>
    match readDirective d with
    | .understood => readAll ds
    | other => other

end EscrowLedger.LogLevel
