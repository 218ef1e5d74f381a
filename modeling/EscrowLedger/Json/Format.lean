import EscrowLedger.Json.Fault

/-!
# Formats of JSON values

A `Format α` says how values of `α` are read from JSON, once from a value in memory and once from
the outline of a text. Both readings accept the same values; they differ in which fault they report,
because a value is visited in the order of its names and a text in the order of its characters.

## Main definitions

* `Json.Format` — the two readings.
* `Json.Format.text`, `Json.Format.optional`, `Json.Format.choice`, `Json.Format.mapOf` — strings,
  values that may be `null`, named alternatives, maps.
* `Json.Format.refine` — a format whose values must pass a check.
* `Json.Layout` — records with named fields, as objects or as arrays in the order of declaration.
* `Json.Format.readText` — reads a whole text, which must end after the value.
-/

namespace EscrowLedger.Json

variable {α β ρ : Type}

/-- How values are read from JSON. -/
structure Format (α : Type) where
  /-- Reads a value in memory. -/
  ofValue : Json → Except Fault α
  /-- Reads what a text shows. -/
  ofOutline : Outline → Except Fault α

namespace Format

def mismatchOf (found : Json) (expected : String) : Fault :=
  Fault.mismatchOf (Outline.ofJson found) expected

def ofText (expected : String) (read : String → Except Fault α) : Format α where
  ofValue
    | .string s => read s
    | v => .error (mismatchOf v expected)
  ofOutline
    | .string (some s) => read s
    | o => .error (Fault.mismatchOf o expected)

def text : Format String := ofText "a string" .ok

/-- Values that may be `null`. -/
def optional (f : Format α) : Format (Option α) where
  ofValue
    | .null => .ok none
    | v => (f.ofValue v).map some
  ofOutline
    | .null => .ok none
    | o => (f.ofOutline o).map some

def choose (names : List (String × α)) (name : String) : Except Fault α :=
  match names.lookup name with
  | some a => .ok a
  | none => .error (.unknownVariant name (names.map Prod.fst))

/-- Named alternatives, each written as its name or as an object that gives `null` to its name. -/
def choice (names : List (String × α)) : Format α where
  ofValue
    | .string s => choose names s
    | .object members =>
      match (fields members).entries with
      | [(name, v)] => do
        let a ← choose names name
        match v with
        | .null => .ok a
        | v => .error (mismatchOf v "unit")
      | _ => .error .notSingle
    | v => .error (mismatchOf v "string or map")
  ofOutline
    | .string (some s) => choose names s
    | .object ((.string (some name), o) :: rest) => do
      let a ← choose names name
      match o with
      | .null => if rest.isEmpty then .ok a else .error .malformed
      | o => .error (Fault.mismatchOf o "unit")
    | _ => .error .malformed

def readMember (f : Format α) (read : Table String α) :
    Outline × Outline → Except Fault (Table String α)
  | (.string (some name), o) => (f.ofOutline o).map (read.insert name ·)
  | _ => .error .malformed

/-- Maps from strings; of several members with one name the last one counts. -/
def mapOf (f : Format α) : Format (Table String α) where
  ofValue
    | .object members =>
      (fields members).entries.foldlM (fun read m => (f.ofValue m.2).map (read.insert m.1 ·)) ∅
    | v => .error (mismatchOf v "a map")
  ofOutline
    | .object members => members.foldlM (readMember f) ∅
    | o => .error (Fault.mismatchOf o "a map")

/-- The values of a format that a function accepts, converted by it. -/
def refine (f : Format α) (check : α → Except Fault β) : Format β where
  ofValue v := f.ofValue v >>= check
  ofOutline o := f.ofOutline o >>= check

/-- Reads a whole text; nothing but white space may follow the value. -/
def readText (f : Format α) (s : String) : Except Fault α := do
  let reading := Reading.ofText s
  let a ← f.ofOutline reading.root
  if reading.trailing then .error .malformed else .ok a

end Format

/-- A named field of a record that is put together from `ρ`. -/
structure Field (ρ : Type) where
  name : String
  /-- Whether the field has been read. -/
  isSet : ρ → Bool
  /-- Reads the field from a value in memory. -/
  ofValue : ρ → Json → Except Fault ρ
  /-- Reads the field from what a text shows. -/
  ofOutline : ρ → Outline → Except Fault ρ

def Field.of (name : String) (f : Format α) (get : ρ → Option α) (set : ρ → α → ρ) : Field ρ where
  name := name
  isSet r := (get r).isSome
  ofValue r v := (f.ofValue v).map (set r)
  ofOutline r o := (f.ofOutline o).map (set r)

/-- How a record is written: as an object with named fields, or as an array that gives the fields in
the order of declaration. -/
structure Layout (ρ α : Type) where
  /-- What messages call the record. -/
  title : String
  fields : List (Field ρ)
  /-- The parts of which nothing is read. -/
  blank : ρ
  /-- Puts the record together. The first function gives the fault for a field that was not read and
  may not be left out. -/
  assemble : (String → Fault) → ρ → Except Fault α

namespace Layout

variable (l : Layout ρ α)

def field? (name : String) : Option (Field ρ) := l.fields.find? (·.name == name)

def tooShort (length : Nat) : Fault :=
  .wrongLength length
    ("struct " ++ l.title ++ " with " ++ toString l.fields.length ++ " elements")

/-- Reads one member of an object in memory; unknown names are skipped. -/
def readValueMember (r : ρ) (m : String × Json) : Except Fault ρ :=
  match l.field? m.1 with
  | some field => field.ofValue r m.2
  | none => .ok r

/-- Reads one member of an object in a text; the value of an unknown name must only be JSON. -/
def readMember (r : ρ) : Outline × Outline → Except Fault ρ
  | (.string (some name), o) =>
    match l.field? name with
    | some field => if field.isSet r then .error (.duplicateField name) else field.ofOutline r o
    | none => if o.isWhole then .ok r else .error .malformed
  | _ => .error .malformed

/-- Reads items into fields one by one; gives the items that are left over. -/
def readItems {ι : Type} (read : Field ρ → ρ → ι → Except Fault ρ) :
    List (Field ρ) → ρ → List ι → Except Fault (ρ × List ι)
  | [], r, items => .ok (r, items)
  | _ :: _, r, [] => .ok (r, [])
  | field :: fields, r, item :: items => do
    let r ← read field r item
    readItems read fields r items

def format : Format α where
  ofValue
    | .object members => do
      let r ← (Json.fields members).entries.foldlM l.readValueMember l.blank
      l.assemble .missingField r
    | .array items => do
      let (r, left) ← readItems Field.ofValue l.fields l.blank items
      let a ← l.assemble (fun _ => l.tooShort items.length) r
      if left.isEmpty then .ok a
      else .error (.wrongLength items.length "fewer elements in array")
    | v => .error (Format.mismatchOf v ("struct " ++ l.title))
  ofOutline
    | .object members => do
      let r ← members.foldlM l.readMember l.blank
      l.assemble .missingField r
    | .array items => do
      let (r, left) ← readItems Field.ofOutline l.fields l.blank items
      let a ← l.assemble (fun _ => l.tooShort items.length) r
      if left.isEmpty then .ok a else .error .malformed
    | o => .error (Fault.mismatchOf o ("struct " ++ l.title))

end Layout

/-- The fault for a part that was not read, or the part. -/
def need (absent : String → Fault) (name : String) : Option α → Except Fault α
  | some a => .ok a
  | none => .error (absent name)

end EscrowLedger.Json
