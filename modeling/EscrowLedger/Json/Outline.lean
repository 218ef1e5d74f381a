import EscrowLedger.Json.Token

/-!
# Outlines of JSON texts

A decoder that reads a text from front to back reports the first problem that it meets, and a
problem with a value may stand before a place where the text stops being JSON. An `Outline` is what
such a decoder gets to see: the tree of the text as far as it goes, with `Outline.broken` at the
first fault and nothing after it.

The tree is built from the tokens by a transition system as well. Its state is a place together
with the arrays and objects that are open around it.

## Main definitions

* `Json.Outline` — the tree. A member has an outline for its name too, since the fault may stand
  where a name belongs.
* `Json.Outline.isWhole` — no fault anywhere.
* `Json.Outline.ofJson`, `Json.Outline.toJson?` — between outlines and values.
* `Json.Reading.ofText` — the outline of a text, and whether more than white space follows it.
* `Json.parse?` — the value that a text writes down.
-/

namespace EscrowLedger.Json

/-- The tree of a JSON text as far as it can be read. -/
inductive Outline where
  /-- The text cannot be continued into JSON from here. -/
  | broken
  | null
  | bool (value : Bool)
  | number (value : Number)
  /-- A string, with its content unless a surrogate stands alone in it. -/
  | string (content : Option String)
  | array (items : List Outline)
  /-- The members in the order of the text, each with what stands in the place of its name. -/
  | object (members : List (Outline × Outline))
deriving Inhabited

namespace Outline

/-- Whether this stands for a name: a string, with or without content. -/
def isName : Outline → Bool
  | .string _ => true
  | _ => false

mutual

def isWhole : Outline → Bool
  | .broken => false
  | .array items => itemsWhole items
  | .object members => membersWhole members
  | _ => true

def itemsWhole : List Outline → Bool
  | [] => true
  | o :: rest => isWhole o && itemsWhole rest

def membersWhole : List (Outline × Outline) → Bool
  | [] => true
  | (name, o) :: rest => isName name && isWhole o && membersWhole rest

end

mutual

def ofJson : Json → Outline
  | .null => .null
  | .bool b => .bool b
  | .number n => .number n
  | .string s => .string (some s)
  | .array items => .array (ofItems items)
  | .object members => .object (ofMembers members)

def ofItems : List Json → List Outline
  | [] => []
  | v :: rest => ofJson v :: ofItems rest

def ofMembers : List (String × Json) → List (Outline × Outline)
  | [] => []
  | (name, v) :: rest => (.string (some name), ofJson v) :: ofMembers rest

end

mutual

/-- The value of an outline, unless it is broken or has a string without content. -/
def toJson? : Outline → Option Json
  | .broken => none
  | .null => some .null
  | .bool b => some (.bool b)
  | .number n => some (.number n)
  | .string content => content.map .string
  | .array items => (toItems? items).map .array
  | .object members => (toMembers? members).map .object

def toItems? : List Outline → Option (List Json)
  | [] => some []
  | o :: rest =>
    match toJson? o, toItems? rest with
    | some v, some vs => some (v :: vs)
    | _, _ => none

def toMembers? : List (Outline × Outline) → Option (List (String × Json))
  | [] => some []
  | (name, o) :: rest =>
    match name, toJson? o, toMembers? rest with
    | .string (some s), some v, some vs => some ((s, v) :: vs)
    | _, _, _ => none

end

end Outline

/-- An array or object that is open around the place of reading, with what stands before the place,
last item or member first. -/
inductive Frame where
  | item (before : List Outline)
  /-- Inside the value of the member with the given name. -/
  | member (before : List (Outline × Outline)) (name : Outline)

/-- The place of reading between two tokens. -/
inductive Place where
  /-- A value must follow. -/
  | value (outer : List Frame)
  /-- After an opening bracket: an item or the closing bracket. -/
  | firstItem (outer : List Frame)
  /-- After an item: a comma or the closing bracket. -/
  | afterItem (before : List Outline) (outer : List Frame)
  /-- After an opening brace: a name or the closing brace. -/
  | firstName (outer : List Frame)
  /-- After a comma in an object: a name. -/
  | nextName (before : List (Outline × Outline)) (outer : List Frame)
  /-- After a name: a colon. -/
  | colon (before : List (Outline × Outline)) (name : Outline) (outer : List Frame)
  /-- After a member: a comma or the closing brace. -/
  | afterMember (before : List (Outline × Outline)) (outer : List Frame)
  /-- After the whole value. -/
  | done (value : Outline) (trailing : Bool)
  /-- After a fault. -/
  | stopped (value : Outline)

namespace Place

/-- Puts an outline into an open array or object, which gets no further items or members. -/
def enclose (o : Outline) : Frame → Outline
  | .item before => .array (o :: before).reverse
  | .member before name => .object ((name, o) :: before).reverse

def halt (o : Outline) (outer : List Frame) : Place := .stopped (outer.foldl enclose o)

def after (o : Outline) : List Frame → Place
  | [] => .done o false
  | .item before :: outer => .afterItem (o :: before) outer
  | .member before name :: outer => .afterMember ((name, o) :: before) outer

/-- The place after the first token of a value. -/
def start (outer : List Frame) : Token → Place
  | .null => after .null outer
  | .bool b => after (.bool b) outer
  | .number n => after (.number n) outer
  | .string content => after (.string content) outer
  | .openBracket => .firstItem outer
  | .openBrace => .firstName outer
  | _ => halt .broken outer

/-- The outline of a token in the place of a name: only a string can stand there. -/
def nameOf : Token → Outline
  | .string content => .string content
  | _ => .broken

def afterName (before : List (Outline × Outline)) (outer : List Frame) (t : Token) : Place :=
  if (nameOf t).isName then .colon before (nameOf t) outer
  else halt (.object ((nameOf t, .broken) :: before).reverse) outer

def step : Place → Token → Place
  | .value outer, t => start outer t
  | .firstItem outer, t => if t = .closeBracket then after (.array []) outer
    else start (.item [] :: outer) t
  | .afterItem before outer, t =>
    if t = .comma then .value (.item before :: outer)
    else if t = .closeBracket then after (.array before.reverse) outer
    else halt .broken (.item before :: outer)
  | .firstName outer, t =>
    if t = .closeBrace then after (.object []) outer else afterName [] outer t
  | .nextName before outer, t => afterName before outer t
  | .colon before name outer, t =>
    if t = .colon then .value (.member before name :: outer)
    else halt .broken (.member before name :: outer)
  | .afterMember before outer, t =>
    if t = .comma then .nextName before outer
    else if t = .closeBrace then after (.object before.reverse) outer
    else halt .broken (.member before .broken :: outer)
  | .done o _, _ => .done o true
  | .stopped o, _ => .stopped o

def finish : Place → Outline × Bool
  | .value outer => (outer.foldl enclose .broken, false)
  | .firstItem outer => ((Frame.item [] :: outer).foldl enclose .broken, false)
  | .afterItem before outer => ((Frame.item before :: outer).foldl enclose .broken, false)
  | .firstName outer => ((Frame.member [] .broken :: outer).foldl enclose .broken, false)
  | .nextName before outer => ((Frame.member before .broken :: outer).foldl enclose .broken, false)
  | .colon before name outer => ((Frame.member before name :: outer).foldl enclose .broken, false)
  | .afterMember before outer =>
    ((Frame.member before .broken :: outer).foldl enclose .broken, false)
  | .done o trailing => (o, trailing)
  | .stopped o => (o, false)

end Place

/-- What reading a whole text gives. -/
structure Reading where
  root : Outline
  /-- Whether anything but white space follows the value. -/
  trailing : Bool

def Reading.ofTokens (ts : List Token) : Reading :=
  let last := (ts.foldl Place.step (.value [])).finish
  ⟨last.1, last.2⟩

def Reading.ofText (s : String) : Reading := .ofTokens (tokens s.toList)

/-- The value that a text writes down, if it is JSON. -/
def parse? (s : String) : Option Json :=
  let reading := Reading.ofText s
  if reading.trailing then none else reading.root.toJson?

end EscrowLedger.Json
