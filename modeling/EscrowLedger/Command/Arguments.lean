import EscrowLedger.Escrow.Submission
import EscrowLedger.Job.Basic
import EscrowLedger.Job.Id

/-!
# Command lines

A command line names one action and gives it options. Options are written with two hyphens and their
value after an equals sign or as the next argument; a next argument that looks like an option is no
value. Two hyphens alone end the options. Three options belong to every action and may stand before
it too; given at both places, the later one counts.

## Main definitions

* `Command.Request` — what a command line asks for.
* `Command.Advance` — the options that make up a submission.
* `Command.parse` — the request of a command line, or why there is none.
-/

namespace EscrowLedger.Command

/-- A submission as options give it. -/
structure Advance where
  stage : Stage
  sessionKey : Option String
  publicKey : Option String
  privateKey : Option String
  exportAuth : Option String
  importAuth : Option String
deriving DecidableEq

def Advance.toSubmission (a : Advance) : Submission :=
  [(Artifact.sessionKey, a.sessionKey), (.publicKey, a.publicKey), (.privateKey, a.privateKey),
    (.exportAuthData, a.exportAuth), (.importAuthData, a.importAuth)].foldl
    (fun s e => e.2.elim s (s.set e.1)) (.empty a.stage)

/-- What is to be done. -/
inductive Action where
  /-- Enter a new job. -/
  | create (services : Job.Services)
  /-- Show the record of a job. -/
  | show (id : JobId)
  /-- Submit an authorization for a job. -/
  | advance (id : JobId) (request : Advance)
  /-- Walk a job through the whole handshake. -/
  | demo
deriving DecidableEq

/-- What a command line asks for. -/
structure Request where
  action : Action
  /-- The path of the ledger, if one is given. -/
  store : Option String
  forwardOnly : Bool
  verbose : Bool
deriving DecidableEq

/-- Why a command line asks for no action. -/
inductive Halt where
  /-- It is not understood. -/
  | usage
  | version
  | help
deriving DecidableEq

def stage? (name : String) : Option Stage :=
  match name with
  | "initial" => some .initial
  | "creds-available" => some .credsAvailable
  | "creds-encryption-key-generated" => some .credsEncryptionKeyGenerated
  | "creds-encrypted" => some .credsEncrypted
  | _ => none

/-- Whether an option accepts a value: a stage must be known and the path of a ledger must not be
empty. -/
def acceptsValue (name value : String) : Bool :=
  if name = "stage" then (stage? value).isSome
  else if name = "store" then value ≠ ""
  else true

/-- The options and arguments that have been read at one place, the latest one first. -/
structure Given where
  values : List (String × String)
  flags : List String
  positionals : List String

namespace Given

def none : Given := ⟨[], [], []⟩

/-- Adds a flag, which may be given once. -/
def addFlag (g : Given) (name : String) : Except Halt Given :=
  if g.flags.contains name then .error .usage else .ok { g with flags := name :: g.flags }

def addValue (g : Given) (name value : String) : Given :=
  { g with values := (name, value) :: g.values }

/-- Whether every option is given once and has a value that it accepts, and every other argument is
an id. -/
def isSound (g : Given) : Bool :=
  (g.values.map (·.1)).Nodup && g.values.all (fun v => acceptsValue v.1 v.2)
    && g.positionals.all fun arg => (JobId.ofText? arg).isSome

/-- Refuses values that are not sound. A value after an equals sign is looked at once, any other
when the next option is read or nothing follows, so that they are refused before help is given. -/
def settle (g : Given) : Except Halt Given := if g.isSound then .ok g else .error .usage

def value? (g : Given) (name : String) : Option String := g.values.lookup name

/-- The value of an option that must be given. -/
def demand (g : Given) (name : String) : Except Halt String :=
  match g.value? name with
  | some v => .ok v
  | Option.none => .error .usage

end Given

/-- What may stand at a place: options with a value, options without, and either the name of an
action or some count of other arguments. -/
structure Grammar where
  values : List String
  flags : List String
  namesAction : Bool
  positionals : Nat

def looksLikeOption (arg : String) : Bool := arg.toList.head? = some '-' && arg ≠ "-"

/-- Splits an option into its name and the value after an equals sign. -/
def splitOption (cs : List Char) : String × Option String :=
  match cs.dropWhile (· ≠ '=') with
  | _ :: value => (String.ofList (cs.takeWhile (· ≠ '=')), some (String.ofList value))
  | [] => (String.ofList cs, none)

def readLetters (grammar : Grammar) : Given → List Char → Except Halt Given
  | g, [] => .ok g
  | g, c :: cs => do
    if c = 'h' then throw .help
    if c = 'V' ∧ grammar.namesAction then throw .version
    if c ≠ 'v' then throw .usage
    readLetters grammar (← g.addFlag "verbose") cs

/-- Reads an option without value; the result is `none` if there is no such option. -/
def readFlag (grammar : Grammar) (g : Given) (name : String) (value : Option String) :
    Except Halt (Option Given) := do
  let special := name = "help" || (name = "version" && grammar.namesAction)
  if special || grammar.flags.contains name then
    if value.isSome then throw .usage
    if name = "help" then throw .help
    if special then throw .version
    pure (some (← g.addFlag name))
  else if grammar.values.contains name then pure none
  else throw .usage

/-- Reads an argument that is no option. -/
def readPositional (grammar : Grammar) (g : Given) (arg : String) : Except Halt Given :=
  if g.positionals.length < grammar.positionals then
    .ok { g with positionals := arg :: g.positionals }
  else .error .usage

/-- Reads arguments; the result also has the name of the action and what follows it, where an action
is named. The flag says that no more options can come. -/
def readArguments (grammar : Grammar) :
    Bool → Given → List String → Except Halt (Given × Option (String × List String))
  | _, g, [] => .ok (g, none)
  | true, g, arg :: rest => do readArguments grammar true (← readPositional grammar g arg) rest
  | false, g, arg :: rest =>
    match arg.toList with
    | ['-', '-'] => readArguments grammar true g rest
    | '-' :: '-' :: option => do
      let g ← g.settle
      let (name, value) := splitOption option
      match ← readFlag grammar g name value with
      | some g => readArguments grammar false g rest
      | none =>
        match value, rest with
        | some value, rest => do
          readArguments grammar false (← (g.addValue name value).settle) rest
        | none, [] => throw .usage
        | none, value :: rest =>
          if looksLikeOption value then throw .usage
          readArguments grammar false (g.addValue name value) rest
    | '-' :: c :: letters => do
      readArguments grammar false (← readLetters grammar (← g.settle) (c :: letters)) rest
    | _ =>
      if grammar.namesAction then .ok (g, some (arg, rest))
      else do readArguments grammar false (← readPositional grammar g arg) rest

/-- The options of every action that have no value. -/
def commonFlags : List String := ["forward-only", "verbose"]

def topGrammar : Grammar := ⟨["store"], commonFlags, true, 0⟩

/-- Reads the arguments of an action that has options and some count of other arguments. -/
def readAction (values : List String) (positionals : Nat) (args : List String) :
    Except Halt Given := do
  let (g, _) ← readArguments ⟨"store" :: values, commonFlags, false, positionals⟩ false .none args
  g.settle

def idOf (g : Given) : Except Halt JobId :=
  match g.positionals.head?.bind JobId.ofText? with
  | some id => .ok id
  | none => .error .usage

def actionNames : List String := ["create", "show", "advance", "demo"]

/-- The action of a name, with the options that were read for it. Help can be asked for as a whole
or about one action. -/
def action (name : String) (args : List String) : Except Halt (Action × Given) := do
  match name with
  | "create" =>
    let g ← readAction ["export", "import", "data-type"] 0 args
    let exportService ← g.demand "export"
    let importService ← g.demand "import"
    let dataType ← g.demand "data-type"
    pure (.create ⟨exportService, importService, dataType⟩, g)
  | "show" =>
    let g ← readAction [] 1 args
    pure (.show (← idOf g), g)
  | "advance" =>
    let g ← readAction
      ["stage", "session-key", "public-key", "private-key", "export-auth", "import-auth"] 1 args
    let id ← idOf g
    match stage? (← g.demand "stage") with
    | none => throw .usage
    | some stage =>
      pure (.advance id ⟨stage, g.value? "session-key", g.value? "public-key",
        g.value? "private-key", g.value? "export-auth", g.value? "import-auth"⟩, g)
  | "demo" =>
    let g ← readAction [] 0 args
    pure (.demo, g)
  | "help" =>
    match args with
    | [] => throw .help
    | [subject] =>
      throw (if subject = "help" || actionNames.contains subject then .help else .usage)
    | _ => throw .usage
  | _ => throw .usage

def parse (args : List String) : Except Halt Request := do
  let (top, named) ← readArguments topGrammar false .none args
  match named with
  | none => throw .usage
  | some (name, rest) =>
    let (action, g) ← action name rest
    let top ← top.settle
    let has (flag : String) : Bool := top.flags.contains flag || g.flags.contains flag
    pure ⟨action, (g.value? "store").or (top.value? "store"), has "forward-only", has "verbose"⟩

end EscrowLedger.Command
