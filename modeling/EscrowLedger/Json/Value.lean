import EscrowLedger.Table

/-!
# JSON values

A `Json` is a value as it is written: an object keeps its members in the order of the text, also
those that repeat a name. Readers that want a map take `Json.fields`, where the last member of a
name counts and names come in increasing order.

## Main definitions

* `Json.Number` — a number literal, by its parts.
* `Json` — the values.
-/


namespace EscrowLedger

/-- A number literal: sign, whole part, digits after the point, exponent. Literals of equal value
may differ, as `1.5` and `1.50` do. -/
structure Json.Number where
  /-- Whether a minus sign stands in front. -/
  negative : Bool
  /-- The part before the point. -/
  whole : Nat
  /-- The digits after the point; empty if there is no point. -/
  fraction : List (Fin 10)
  /-- The power of ten, if one is given. -/
  exponent : Option Int
deriving DecidableEq, Inhabited

/-- A JSON value, with the members of objects as they are written. -/
inductive Json where
  | null
  | bool (value : Bool)
  | number (value : Json.Number)
  | string (value : String)
  | array (items : List Json)
  | object (members : List (String × Json))
deriving Inhabited

namespace Json

def Number.ofNat (n : Nat) : Number := ⟨false, n, [], none⟩

def ofNat (n : Nat) : Json := .number (.ofNat n)

/-- An optional text: the text or `null`. -/
def ofText? : Option String → Json
  | none => .null
  | some s => .string s

/-- The members of an object as a map: the last member of each name, names increasing. -/
def fields (members : List (String × Json)) : Table String Json := Table.ofList members

end Json

end EscrowLedger
