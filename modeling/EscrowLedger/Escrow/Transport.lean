import EscrowLedger.Escrow.Authorization
import EscrowLedger.Json.Format

/-!
# Authorizations as JSON

An authorization travels as an object that names its stage and gives every artifact it has under the
name of the artifact. Readers accept `null` for an artifact that is absent.

## Main definitions

* `Stage.format`, `Submission.format`, `Authorization.format` — how they are read.
* `Submission.toJson`, `Authorization.toJson` — how they are written.
-/

namespace EscrowLedger

open Json (Format Layout Fault)

def Stage.format : Format Stage := .choice (Stage.all.map fun s => (s.name, s))

def Stage.toJson (s : Stage) : Json := .string s.name

/-- What has been read of a submission. An artifact that was `null` has been read as well. -/
structure Submission.Parts where
  stage : Option Stage
  texts : Artifact → Option (Option String)

namespace Submission.Parts

def blank : Parts := ⟨none, fun _ => none⟩

def setText (p : Parts) (a : Artifact) (text : Option String) : Parts :=
  { p with texts := fun b => if b = a then some text else p.texts b }

/-- Puts a submission together; only the stage must have been read. -/
def assemble (absent : String → Fault) (p : Parts) : Except Fault Submission := do
  let stage ← Json.need absent "stage" p.stage
  pure (Artifact.all.foldl (fun s a => s.put a ((p.texts a).getD none)) (.empty stage))

end Submission.Parts

namespace Submission

def artifactField (a : Artifact) : Json.Field Parts :=
  .of a.name (.optional .text) (·.texts a) (·.setText a ·)

def layout : Layout Parts Submission where
  title := "AuthorizationFields"
  fields := .of "stage" Stage.format (·.stage) (fun p s => { p with stage := some s })
    :: Artifact.all.map artifactField
  blank := .blank
  assemble := Parts.assemble

def format : Format Submission := layout.format

def toJson (s : Submission) : Json :=
  .object (("stage", s.stage.toJson)
    :: Artifact.all.filterMap fun a => (s.get a).map fun text => (a.name, .string text))

end Submission

namespace Authorization

/-- How an authorization is read: as a submission that passes the check. -/
def format : Format Authorization :=
  Submission.format.refine fun s =>
    match ofSubmission s with
    | .ok auth => .ok auth
    | .error v => .error (.rejected v.message)

def toJson (auth : Authorization) : Json := auth.toSubmission.toJson

end Authorization

end EscrowLedger
