import EscrowLedger.Toml.Scalar

/-!
# Settings files

The reader of TOML documents. A document is a table of named items; a header opens a table inside
it, and names joined by dots lead into tables. A name is given once, and a table that one kind of
line has made is not extended by another kind.

## Main definitions

* `Toml.Item` — the values, with the tables among them.
* `Toml.Origin` — what has made a table, which decides what may still be added to it.
* `Toml.parse?` — the table of a document.
-/

namespace EscrowLedger.Toml

/-- What has made a table. -/
inductive Origin where
  /-- A header with its name. -/
  | header
  /-- A header with a longer name that leads through it. -/
  | passage
  /-- Names joined by dots. -/
  | dotted
  /-- Braces. -/
  | braces
deriving DecidableEq

/-- An item of a settings file. Of numbers and dates only their presence is kept. -/
inductive Item where
  | text (value : String)
  | flag (value : Bool)
  | number
  | date
  | list (items : List Item)
  | table (origin : Origin) (items : List (String × Item))
  /-- A list of tables, each with a header of its own. -/
  | tables (elements : List (List (String × Item)))

abbrev Items := List (String × Item)

def update (name : String) (item : Item) (items : Items) : Items :=
  items.map fun e => if e.1 = name then (name, item) else e

/-- Applies a change to the table that names lead to, making the tables on the way that are missing.
The change learns whether that table was made by names joined by dots. -/
def descend (origin : Origin) (change : Bool → Items → Option Items) :
    List String → Bool → Items → Option Items
  | [], dotted, items => change dotted items
  | name :: path, _, items =>
    match items.lookup name with
    | none => do
      let made ← descend origin change path (origin = .dotted) []
      some (items ++ [(name, .table origin made)])
    | some (.table kind inner) =>
      if kind = .braces ∨ (origin = .dotted ∧ kind = .header) then none
      else do
        let changed ← descend origin change path (kind = .dotted) inner
        some (update name (.table kind changed) items)
    | some (.tables elements) =>
      match elements.getLast? with
      | none => none
      | some last => do
        let changed ← descend origin change path false last
        some (update name (.tables (elements.dropLast ++ [changed])) items)
    | some _ => none

def addItem (path : List String) (item : Item) (items : Items) : Option Items :=
  match path.getLast? with
  | none => none
  | some name =>
    let above := path.dropLast
    descend .dotted (fun dotted items =>
      if dotted = above.isEmpty || (items.lookup name).isSome then none
      else some (items ++ [(name, item)])) above false items

def openTable (path : List String) (root : Items) : Option Items :=
  match path.getLast? with
  | none => none
  | some name =>
    descend .passage (fun _ items =>
      match items.lookup name with
      | none => some (items ++ [(name, .table .header [])])
      | some (.table .passage inner) => some (update name (.table .header inner) items)
      | some _ => none) path.dropLast false root

def openElement (path : List String) (root : Items) : Option Items :=
  match path.getLast? with
  | none => none
  | some name =>
    descend .passage (fun _ items =>
      match items.lookup name with
      | none => some (items ++ [(name, .tables [[]])])
      | some (.tables elements) => some (update name (.tables (elements ++ [[]])) items)
      | some _ => none) path.dropLast false root

/-- How many arrays and tables in braces may stand inside each other, and how many names may be
joined by dots, less one. -/
def depthLimit : Nat := 80

/-- A name, bare or as a string on one line. -/
def name? (cs : List Char) : Option (String × List Char) :=
  let isBare (c : Char) : Bool := c.isAlphanum || c = '-' || c = '_'
  match cs.takeWhile isBare with
  | [] => shortString? cs
  | bare => some (String.ofList bare, cs.dropWhile isBare)

/-- Names joined by dots, with blanks around them; `fuel` bounds their count. -/
def path? : (fuel : Nat) → Reader (List String)
  | 0, _ => none
  | fuel + 1, cs => do
    let (name, rest) ← name? (skipGap cs)
    match skipGap rest with
    | '.' :: rest => do
      let (names, rest) ← path? fuel rest
      some (name :: names, rest)
    | rest => some ([name], rest)

def keyPath? : Reader (List String) := path? (depthLimit - 1)

/-- The text from the end of a comment on; a control character ends it too early. -/
def skipComment : List Char → List Char
  | '#' :: rest => rest.dropWhile isShown
  | cs => cs

def skipFiller : (fuel : Nat) → List Char → List Char
  | 0, cs => cs
  | fuel + 1, cs =>
    match skipGap cs with
    | '#' :: rest => skipFiller fuel (rest.dropWhile isShown)
    | rest =>
      match lineEnd? rest with
      | some later => skipFiller fuel later
      | none => rest

def arrayItems? (item? : Reader Item) : (fuel : Nat) → Reader (List Item)
  | 0, _ => none
  | fuel + 1, cs =>
    match skipFiller cs.length cs with
    | ']' :: rest => some ([], rest)
    | cs => do
      let (item, rest) ← item? cs
      match skipFiller rest.length rest with
      | ',' :: rest => do
        let (items, rest) ← arrayItems? item? fuel rest
        some (item :: items, rest)
      | ']' :: rest => some ([item], rest)
      | _ => none

def pair? (item? : Reader Item) (cs : List Char) : Option ((List String × Item) × List Char) := do
  let (path, rest) ← keyPath? cs
  let rest ← mark? '=' rest
  let (item, rest) ← item? (skipGap rest)
  some ((path, item), rest)

/-- The items of a table in braces, after its opening brace and the first blanks. -/
def braceItems? (item? : Reader Item) : (fuel : Nat) → Items → Reader Items
  | 0, _, _ => none
  | fuel + 1, items, cs => do
    let ((path, item), rest) ← pair? item? cs
    let items ← addItem path item items
    match skipGap rest with
    | ',' :: rest => braceItems? item? fuel items rest
    | '\x7d' :: rest => some (items, rest)
    | _ => none

/-- An item, with at most `depth` arrays and tables in braces inside each other. -/
def item? : (depth : Nat) → Reader Item
  | 0, _ => none
  | depth + 1, cs =>
    match cs with
    | '[' :: rest =>
      if depth = 0 then none
      else (arrayItems? (item? depth) cs.length rest).map fun r => (.list r.1, r.2)
    | '\x7b' :: rest =>
      if depth = 0 then none
      else
        match skipGap rest with
        | '\x7d' :: rest => some (.table .braces [], rest)
        | rest =>
          (braceItems? (item? depth) cs.length [] rest).map fun r => (.table .braces r.1, r.2)
    | 't' :: 'r' :: 'u' :: 'e' :: rest => some (.flag true, rest)
    | 'f' :: 'a' :: 'l' :: 's' :: 'e' :: rest => some (.flag false, rest)
    | _ =>
      match string? cs with
      | some (s, rest) => some (.text s, rest)
      | none =>
        match date? cs with
        | some rest => some (.date, rest)
        | none => (number? cs).map fun rest => (.number, rest)

def finishLine? (cs : List Char) : Option (List Char) :=
  match skipComment (skipGap cs) with
  | [] => some []
  | rest => lineEnd? rest

def header? (closing : List Char) (cs : List Char) : Option (List String × List Char) := do
  let (path, rest) ← keyPath? cs
  if closing.isPrefixOf rest then some (path, rest.drop closing.length) else none

/-- Reads line by line; the table that is open is given by its path. -/
def lines? : (fuel : Nat) → (current : List String) → Items → List Char → Option Items
  | 0, _, _, _ => none
  | fuel + 1, current, root, cs =>
    match skipGap cs with
    | [] => some root
    | '[' :: '[' :: rest => do
      let (path, rest) ← header? [']', ']'] rest
      let rest ← finishLine? rest
      lines? fuel path (← openElement path root) rest
    | '[' :: rest => do
      let (path, rest) ← header? [']'] rest
      let rest ← finishLine? rest
      lines? fuel path (← openTable path root) rest
    | c :: rest =>
      if c = '#' || c = '\n' || c = '\r' then do
        let rest ← finishLine? (c :: rest)
        lines? fuel current root rest
      else do
        let ((path, item), rest) ← pair? (item? depthLimit) (c :: rest)
        let rest ← finishLine? rest
        let root ← descend .passage (fun _ items => addItem path item items) current false root
        lines? fuel current root rest

/-- The table of a document. A mark of the byte order may stand in front of it. -/
def parse? (s : String) : Option Items :=
  let cs := match s.toList with
    | '\ufeff' :: rest => rest
    | cs => cs
  lines? (cs.length + 1) [] [] cs

end EscrowLedger.Toml
