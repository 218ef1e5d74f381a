import EscrowLedger.Json.Magnitude
import EscrowLedger.Json.Outline
import EscrowLedger.Text.Quotation

/-!
# What is wrong with a JSON value

A value may be JSON and yet not describe what is wanted. The causes are listed here, together with
their wording. Two causes carry no data: the text is no JSON at all, and a text that should be a
point in time is none.

## Main definitions

* `Json.Shape` — what messages say about a value that was found.
* `Json.Fault` — the causes.
* `Json.Fault.message` — their wording.
-/

namespace EscrowLedger.Json

/-- What messages say about a value that was found in place of the wanted one. -/
inductive Shape where
  | null
  | bool (value : Bool)
  | integer (value : Int)
  | float (text : String)
  | string (content : String)
  | sequence
  | map
deriving DecidableEq

/-- Why a JSON text or value does not describe what is wanted. -/
inductive Fault where
  /-- The text is not JSON, or goes on after its value. -/
  | malformed
  /-- A value of another kind was found. -/
  | mismatch (found : Shape) (expected : String)
  /-- A choice written as an object must have exactly one member. -/
  | notSingle
  /-- An array has too few or too many items. -/
  | wrongLength (length : Nat) (expected : String)
  | missingField (name : String)
  | duplicateField (name : String)
  | unknownVariant (name : String) (known : List String)
  /-- A string is no point in time. -/
  | notTimestamp
  /-- The parts are well formed but do not belong together. -/
  | rejected (reason : String)
deriving DecidableEq

namespace Shape

def describe : Shape → String
  | .null => "null"
  | .bool true => "boolean `true`"
  | .bool false => "boolean `false`"
  | .integer n => "integer `" ++ toString n ++ "`"
  | .float text => "floating point `" ++ text ++ "`"
  | .string s => "string " ++ Text.quotation s
  | .sequence => "sequence"
  | .map => "map"

/-- What messages say about a number, unless it is too large for them. -/
def ofNumber? (n : Number) : Option Shape :=
  match n.integer? with
  | some i => some (.integer i)
  | none => n.float?.map fun x => .float (String.ofList (floatText n.negative x))

end Shape

namespace Fault

/-- A value of another kind than the expected one. A decoder that reads a broken value, a string
without content or a number that is too large reports the text instead. -/
def mismatchOf (found : Outline) (expected : String) : Fault :=
  match found with
  | .broken => .malformed
  | .null => .mismatch .null expected
  | .bool b => .mismatch (.bool b) expected
  | .number n =>
    match Shape.ofNumber? n with
    | some shape => .mismatch shape expected
    | none => .malformed
  | .string none => .malformed
  | .string (some s) => .mismatch (.string s) expected
  | .array _ => .mismatch .sequence expected
  | .object _ => .mismatch .map expected

def accented (name : String) : String := "`" ++ name ++ "`"

def oneOf : List String → String
  | [] => "there are no variants"
  | [a] => "expected " ++ accented a
  | [a, b] => "expected " ++ accented a ++ " or " ++ accented b
  | names => "expected one of " ++ String.intercalate ", " (names.map accented)

def message : Fault → String
  | .malformed => "malformed JSON text"
  | .mismatch found expected => "invalid type: " ++ found.describe ++ ", expected " ++ expected
  | .notSingle => "invalid value: map, expected map with a single key"
  | .wrongLength length expected =>
    "invalid length " ++ toString length ++ ", expected " ++ expected
  | .missingField name => "missing field " ++ accented name
  | .duplicateField name => "duplicate field " ++ accented name
  | .unknownVariant name known => "unknown variant " ++ accented name ++ ", " ++ oneOf known
  | .notTimestamp => "not an accepted timestamp"
  | .rejected reason => reason

end Fault

end EscrowLedger.Json
