import EscrowLedger.Command.Arguments
import EscrowLedger.Proofs.Escrow.Assignment

/-!
# Submissions from options

An advance sets artifacts in the order in which its options are listed, which is not the order in
which artifacts are checked and written. Since artifacts are kept apart, the order does not show: the
submission has every option that is given, under its own artifact, and nothing else.

## Main definitions

* `Command.Advance.text` — the text that options give to an artifact.

## Main statements

* `Command.Advance.toSubmission_eq_ofTexts` — the submission of an advance is given by these texts.
* `Submission.artifacts_kept_apart` — setting, submitting and taking artifacts concerns no others.
-/

namespace EscrowLedger

namespace Command

/-- The text that the options of a command line give to an artifact. -/
def Advance.text (a : Advance) : Artifact → Option String
  | .sessionKey => a.sessionKey
  | .publicKey => a.publicKey
  | .privateKey => a.privateKey
  | .exportAuthData => a.exportAuth
  | .importAuthData => a.importAuth

/-- The artifacts in the order in which an advance sets them. -/
def optionOrder : List Artifact :=
  [.sessionKey, .publicKey, .privateKey, .exportAuthData, .importAuthData]

theorem mem_optionOrder (x : Artifact) : x ∈ optionOrder := by
  cases x <;> simp [optionOrder]

theorem Advance.toSubmission_eq_setAll (a : Advance) : a.toSubmission
    = (Submission.empty a.stage).setAll (Submission.assignments a.text optionOrder) :=
  Submission.foldl_elim_set a.text optionOrder (.empty a.stage)

/-- The submission of an advance is given by the texts of its options. -/
theorem Advance.toSubmission_eq_ofTexts (a : Advance) :
    a.toSubmission = .ofTexts a.stage a.text := by
  rw [toSubmission_eq_setAll, Submission.setAll_assignments a.stage a.text mem_optionOrder]

theorem Advance.get_toSubmission (a : Advance) (x : Artifact) :
    a.toSubmission.get x = a.text x := by
  rw [toSubmission_eq_ofTexts, Submission.get_ofTexts]

theorem Advance.stage_toSubmission (a : Advance) : a.toSubmission.stage = a.stage := by
  rw [toSubmission_eq_ofTexts, Submission.stage_ofTexts]

end Command

namespace Submission

/-- Artifacts are kept apart. After any number of assignments each artifact has the last text that
was assigned to it, or what it had before if there was none, and the stage is the same; so assignments
to different artifacts commute. An artifact that is taken out afterwards is gone, and its text comes
back exactly if it was there and not blank; stage and other artifacts stay. An advance hands in the
options that are given, each as its own artifact, and nothing else. -/
theorem artifacts_kept_apart :
    (∀ (s : Submission) (ts : List (Artifact × String)),
      (s.setAll ts).stage = s.stage ∧
      (∀ a, (s.setAll ts).get a = (a.lastText? ts).or (s.get a)) ∧
      (∀ us : List (Artifact × String), (∀ t ∈ ts, ∀ u ∈ us, t.1 ≠ u.1) →
        (s.setAll ts).setAll us = (s.setAll us).setAll ts) ∧
      ∀ a, ((s.setAll ts).take a).2.stage = s.stage ∧
        (∀ b, ((s.setAll ts).take a).2.get b = if b = a then none else (s.setAll ts).get b) ∧
        ∀ text, ((s.setAll ts).take a).1.map (·.text) = some text ↔
          (s.setAll ts).get a = some text ∧ Text.isBlank text = false) ∧
    ∀ request : Command.Advance, request.toSubmission =
      { stage := request.stage
        sessionKey := request.sessionKey
        exportAuthData := request.exportAuth
        importAuthData := request.importAuth
        publicKey := request.publicKey
        privateKey := request.privateKey } := by
  refine ⟨fun s ts => ⟨stage_setAll s ts, get_setAll s ts, fun us h => setAll_comm h, fun a => ?_⟩,
    Command.Advance.toSubmission_eq_ofTexts⟩
  refine ⟨?_, get_take _ a, fun text => text_take_eq_some_iff⟩
  rw [stage_take, stage_setAll]

/-- A session key that is set twice, and a blank public key. -/
def twiceKeyed : List (Artifact × String) :=
  [(.sessionKey, "first"), (.publicKey, " "), (.sessionKey, "second")]

/-- The second session key counts, wherever credentials are set. A blank public key is taken out
without a text. -/
theorem artifacts_kept_apart_twiceKeyed :
    (∀ t ∈ twiceKeyed, ∀ u ∈ [(Artifact.exportAuthData, "e")], t.1 ≠ u.1) ∧
    ((empty .initial).setAll twiceKeyed).setAll [(.exportAuthData, "e")]
      = ((empty .initial).setAll [(.exportAuthData, "e")]).setAll twiceKeyed ∧
    ((empty .initial).setAll twiceKeyed).get .sessionKey = some "second" ∧
    ((empty .initial).setAll twiceKeyed).get .publicKey = some " " ∧
    ¬((((empty .initial).setAll twiceKeyed).take .publicKey).1.map (·.text) = some " ") ∧
    (((empty .initial).setAll twiceKeyed).take .publicKey).2.get .publicKey = none := by
  obtain ⟨-, hget, hcomm, htake⟩ := artifacts_kept_apart.1 (empty .initial) twiceKeyed
  have happart : ∀ t ∈ twiceKeyed, ∀ u ∈ [(Artifact.exportAuthData, "e")], t.1 ≠ u.1 := by decide
  obtain ⟨-, hleft, htext⟩ := htake .publicKey
  refine ⟨happart, hcomm _ happart, hget .sessionKey, hget .publicKey, ?_, hleft .publicKey⟩
  rw [htext]
  rintro ⟨-, hblank⟩
  cases hblank

end Submission

end EscrowLedger
