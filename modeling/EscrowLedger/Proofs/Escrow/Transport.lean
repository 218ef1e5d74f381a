import EscrowLedger.Escrow.Transport
import EscrowLedger.Proofs.Escrow.Authorization
import EscrowLedger.Proofs.Json.Reading

/-!
# Authorizations come back from transport

The object that an authorization travels as is read back member by member: its stage, and then the
artifacts that are there. Those that were left out are found absent.

## Main statements

* `Submission.foldlM_readMember_artifacts` — the artifacts of a submission are read one by one.
* `Submission.ofOutline_toJson`, `Authorization.ofOutline_toJson` — submissions and authorizations
  are read back.
-/

namespace EscrowLedger

open Json (Outline)

theorem Stage.ofOutline_toJson (s : Stage) : Stage.format.ofOutline (.ofJson s.toJson) = .ok s := by
  cases s <;> rfl

namespace Submission

def artifactMembers (s : Submission) (as : List Artifact) : List (String × Json) :=
  as.filterMap fun a => (s.get a).map fun text => (a.name, .string text)

theorem field?_name (a : Artifact) : layout.field? a.name = some (artifactField a) := by
  cases a <;> rfl

theorem texts_setText (p : Parts) (a b : Artifact) (text : Option String) :
    (p.setText a text).texts b = if b = a then some text else p.texts b := rfl

/-- Artifacts that have not been read before are read one after the other. -/
theorem foldlM_readMember_artifacts (s : Submission) (as : List Artifact) (has : as.Nodup)
    {p : Parts} (hp : ∀ a ∈ as, p.texts a = none) :
    (Outline.ofMembers (s.artifactMembers as)).foldlM layout.readMember p
      = .ok ⟨p.stage, fun b => if b ∈ as then (s.get b).map some else p.texts b⟩ := by
  induction as generalizing p with
  | nil => rfl
  | cons a as ih =>
    obtain ⟨hnot, has⟩ := List.nodup_cons.1 has
    have hlater : ∀ b ∈ as, b ≠ a := by
      rintro b hb rfl
      exact hnot hb
    cases ha : s.get a with
    | none =>
      rw [artifactMembers, List.filterMap_cons_none (by rw [ha]; rfl)]
      refine (ih has fun b hb => hp b (List.mem_cons_of_mem a hb)).trans ?_
      congr 2
      funext b
      by_cases hb : b = a
      · rw [hb, if_neg hnot, if_pos List.mem_cons_self, ha, hp a List.mem_cons_self]
        rfl
      · simp only [List.mem_cons, hb, false_or]
    | some text =>
      rw [artifactMembers, List.filterMap_cons_some (by rw [ha]; rfl)]
      refine (Json.Layout.foldlM_readMember_of (field?_name a) (hp a List.mem_cons_self)
        (a := some text) rfl _).trans ?_
      have hnew : ∀ b ∈ as, (p.setText a (some text)).texts b = none := by
        intro b hb
        rw [texts_setText, if_neg (hlater b hb)]
        exact hp b (List.mem_cons_of_mem a hb)
      refine (ih has hnew).trans ?_
      congr 2
      funext b
      by_cases hb : b = a
      · rw [hb, if_neg hnot, if_pos List.mem_cons_self, ha, texts_setText, if_pos rfl]
        rfl
      · simp only [List.mem_cons, hb, false_or, texts_setText, if_false]

/-- Parts that hold what a submission has are put together to that submission. -/
theorem assemble_eq (absent : String → Json.Fault) {p : Parts} {s : Submission}
    (hstage : p.stage = some s.stage) (htexts : ∀ a, (p.texts a).getD none = s.get a) :
    p.assemble absent = .ok s := by
  rw [Parts.assemble, hstage]
  refine congrArg Except.ok (ext_get ?_ fun a => ?_)
  · simp [Artifact.all, empty]
  · simp only [htexts, Artifact.all]
    cases a <;> simp [get_put]

theorem ofOutline_toJson (s : Submission) : format.ofOutline (.ofJson s.toJson) = .ok s := by
  have hmembers : (Outline.ofMembers (("stage", s.stage.toJson)
      :: s.artifactMembers Artifact.all)).foldlM layout.readMember .blank
      = .ok ⟨some s.stage, fun a => if a ∈ Artifact.all then (s.get a).map some else none⟩ := by
    refine (Json.Layout.foldlM_readMember_of rfl rfl (Stage.ofOutline_toJson s.stage) _).trans ?_
    exact foldlM_readMember_artifacts s Artifact.all (by decide) fun _ _ => rfl
  change ((Outline.ofMembers (("stage", s.stage.toJson)
    :: s.artifactMembers Artifact.all)).foldlM layout.readMember .blank
    >>= Parts.assemble .missingField) = _
  rw [hmembers]
  change Parts.assemble .missingField ⟨some s.stage, _⟩ = _
  refine assemble_eq _ rfl fun a => ?_
  change (if a ∈ Artifact.all then (s.get a).map some else none).getD none = s.get a
  rw [if_pos (Artifact.mem_all a)]
  cases s.get a <;> rfl

end Submission

namespace Authorization

theorem ofOutline_toJson (auth : Authorization) :
    format.ofOutline (.ofJson auth.toJson) = .ok auth := by
  simp only [format, Json.Format.refine, toJson, Submission.ofOutline_toJson, bind, Except.bind,
    ofSubmission_toSubmission]

end Authorization

end EscrowLedger
