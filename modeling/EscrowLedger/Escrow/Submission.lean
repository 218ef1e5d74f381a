import EscrowLedger.Escrow.Sealed
import EscrowLedger.Escrow.Stage

/-!
# Submissions

A submission is an authorization as collaborators hand it in: a stage and up to five texts, of which
nothing is known yet. It is checked against the rules of its stage, artifact by artifact.

## Main definitions

* `Submission` — the flat form, with `get`, `set` and `take` per artifact.
* `Violation` — an artifact that breaks the rule of a stage.
* `Submission.check` — the first violation, if there is one.
* `Submission.isUnkeyed` — whether it says no more than that a job is new.

## Main statements

* `Submission.get_set` — setting one artifact changes no other.
-/

namespace EscrowLedger

/-- An authorization as it is handed in, before any check. -/
structure Submission where
  stage : Stage
  sessionKey : Option String
  exportAuthData : Option String
  importAuthData : Option String
  publicKey : Option String
  privateKey : Option String
deriving DecidableEq, Inhabited

/-- An artifact that breaks the rule of a stage. -/
structure Violation where
  stage : Stage
  artifact : Artifact
  rule : Rule
deriving DecidableEq, Inhabited

namespace Violation

def message (v : Violation) : String :=
  "invalid authorization state: stage " ++ v.stage.name ++ " " ++ v.rule.verb ++ " "
    ++ v.artifact.name

end Violation

namespace Rule

/-- Whether a text breaks a rule. A required text must not be blank, a forbidden one must be
empty; an absent text counts as the empty one. -/
def isBroken : Rule → String → Bool
  | .required, text => Text.isBlank text
  | .forbidden, text => text ≠ ""

end Rule

namespace Submission

def empty (stage : Stage) : Submission := ⟨stage, none, none, none, none, none⟩

def get (s : Submission) : Artifact → Option String
  | .sessionKey => s.sessionKey
  | .exportAuthData => s.exportAuthData
  | .importAuthData => s.importAuthData
  | .publicKey => s.publicKey
  | .privateKey => s.privateKey

/-- Gives an artifact a text, or none. -/
def put (s : Submission) (a : Artifact) (text : Option String) : Submission :=
  match a with
  | .sessionKey => { s with sessionKey := text }
  | .exportAuthData => { s with exportAuthData := text }
  | .importAuthData => { s with importAuthData := text }
  | .publicKey => { s with publicKey := text }
  | .privateKey => { s with privateKey := text }

def set (s : Submission) (a : Artifact) (text : String) : Submission := s.put a (some text)

/-- Sets artifacts one after the other; of several texts for one artifact the last one counts. -/
def setAll (s : Submission) (texts : List (Artifact × String)) : Submission :=
  texts.foldl (fun s t => s.set t.1 t.2) s

/-- Takes an artifact out: its content if it can be sealed, and what is left. -/
def take (s : Submission) (a : Artifact) : Option Sealed × Submission :=
  ((s.get a).bind Sealed.ofText?, s.put a none)

def breaks (s : Submission) (a : Artifact) : Bool :=
  (s.stage.rule a).isBroken ((s.get a).getD "")

/-- Checks every artifact against the rule of the stage and reports the first violation. -/
def check (s : Submission) : Except Violation Unit :=
  match Artifact.all.find? s.breaks with
  | some a => .error ⟨s.stage, a, s.stage.rule a⟩
  | none => .ok ()

/-- Whether the submission describes a new job, for which nobody has chosen a session key yet. -/
def isUnkeyed (s : Submission) : Bool :=
  s.stage = .initial && (s.sessionKey.all Text.isBlank)
    && Artifact.optional.all fun a => (s.get a).all (· = "")

@[simp] theorem stage_put (s : Submission) (a : Artifact) (t : Option String) :
    (s.put a t).stage = s.stage := by
  cases a <;> rfl

/-- Putting one artifact changes no other. -/
theorem get_put (s : Submission) (a b : Artifact) (t : Option String) :
    (s.put a t).get b = if b = a then t else s.get b := by
  cases a <;> cases b <;> rfl

/-- Setting one artifact changes no other. -/
theorem get_set (s : Submission) (a b : Artifact) (text : String) :
    (s.set a text).get b = if b = a then some text else s.get b :=
  get_put s a b (some text)

@[simp] theorem get_empty (stage : Stage) (a : Artifact) : (empty stage).get a = none := by
  cases a <;> rfl

/-- Submissions of one stage that give every artifact alike are equal. -/
theorem ext_get {s t : Submission} (hs : s.stage = t.stage) (h : ∀ a, s.get a = t.get a) :
    s = t := by
  obtain ⟨stage, k, e, i, u, r⟩ := s
  obtain ⟨stage', k', e', i', u', r'⟩ := t
  cases hs
  cases h .sessionKey
  cases h .exportAuthData
  cases h .importAuthData
  cases h .publicKey
  cases h .privateKey
  rfl

end Submission

end EscrowLedger
