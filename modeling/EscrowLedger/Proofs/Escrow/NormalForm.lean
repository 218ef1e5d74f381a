import EscrowLedger.Proofs.Escrow.Reading

/-!
# Normal forms of submissions

Several submissions may become one authorization. A forbidden artifact may be absent or empty, and
the session key of a new job may be absent or blank; the authorization does not show which it was.
What it does show is the normal form of the submission: the artifacts that the stage requires, word
for word, and nothing else.

The normal form is told from the rules of the stage alone, so that it says what the conversion keeps
and what it drops. It is meant for submissions that are accepted. One that is refused may be changed
again when its normal form is taken once more, since without its misplaced artifacts it may describe
a new job.

## Main definitions

* `Submission.normal` — the normal form.

## Main statements

* `Authorization.toSubmission_of_ofSubmission` — the flat form of an authorization is the normal form
  of every submission that it came from.
* `Authorization.toSubmission_eq_normal` — flat forms and authorizations are the same thing, but for
  what the normal form drops.
-/

namespace EscrowLedger

namespace Submission

/-- The text that the normal form of a submission has for an artifact. -/
def normalText (s : Submission) (a : Artifact) : Option String :=
  match s.stage.rule a with
  | .required => if s.DescribesNew then none else s.get a
  | .forbidden => none

/-- The normal form of a submission: the artifacts that its stage requires, as they were given. What
describes a new job has none. -/
def normal (s : Submission) : Submission := ofTexts s.stage s.normalText

variable {s : Submission} {a : Artifact}

@[simp] theorem stage_normal (s : Submission) : s.normal.stage = s.stage := rfl

@[simp] theorem get_normal (s : Submission) (a : Artifact) : s.normal.get a = s.normalText a :=
  get_ofTexts _ _ a

theorem DescribesNew.normalText_eq (h : s.DescribesNew) (a : Artifact) : s.normalText a = none := by
  rw [normalText, if_pos h]
  cases s.stage.rule a <;> rfl

theorem normalText_of_required (hnew : ¬s.DescribesNew) (h : s.stage.rule a = .required) :
    s.normalText a = s.get a := by
  simp only [normalText, h, if_neg hnew]

theorem normalText_of_forbidden (h : s.stage.rule a = .forbidden) : s.normalText a = none := by
  simp only [normalText, h]

/-- Blanks around a text stay, and a forbidden text that is empty goes. -/
example : normal ⟨.credsAvailable, some " k ", some "", none, none, none⟩
    = ⟨.credsAvailable, some " k ", none, none, none, none⟩ := rfl

end Submission

namespace Authorization

variable {s s' : Submission} {auth auth' : Authorization}

/-- An accepted submission gives every artifact that its stage requires, unless it describes a new
job. The authorization has it as it was given. -/
theorem exists_text_of_required (h : ofSubmission s = .ok auth) (hnew : ¬s.DescribesNew)
    {a : Artifact} (ha : s.stage.rule a = .required) :
    ∃ text, s.get a = some text ∧ (auth.get a).map (·.text) = some text := by
  have hpasses := (exists_ofSubmission_iff hnew).1 ⟨auth, h⟩
  obtain ⟨auth', hauth', hkeyed, hstage, htexts⟩ := exists_ofSubmission hpasses
  obtain rfl := Except.ok.inj (h.symm.trans hauth')
  rw [← hstage] at ha
  obtain ⟨content, hcontent⟩ := Option.isSome_iff_exists.1 ((isSome_get_of_keyed hkeyed a).2 ha)
  refine ⟨content.text, ?_, by rw [hcontent, Option.map_some]⟩
  have hgiven := htexts a
  rw [hcontent, Option.map_some] at hgiven
  exact (Option.filter_eq_some_iff.1 hgiven.symm).1

/-- The flat form of an authorization is the normal form of what it was made of. -/
theorem toSubmission_of_ofSubmission (h : ofSubmission s = .ok auth) :
    auth.toSubmission = s.normal := by
  have hstage : auth.stage = s.stage := by
    cases ofSubmission_eq_ok_iff.1 h with
    | new hnew hunkeyed =>
      rw [hunkeyed, hnew.stage]
      rfl
    | checked _ hstage _ => exact hstage
  refine Submission.ext_get ?_ fun a => ?_
  · rw [stage_toSubmission, Submission.stage_normal, hstage]
  · rw [get_toSubmission, Submission.get_normal]
    by_cases hnew : s.DescribesNew
    · have hunkeyed := Except.ok.inj (h.symm.trans (ofSubmission_of_describesNew hnew))
      rw [hnew.normalText_eq, hunkeyed, get_unkeyed, Option.map_none]
    · cases hrule : s.stage.rule a with
      | required =>
        obtain ⟨text, hgiven, htext⟩ := exists_text_of_required h hnew hrule
        rw [Submission.normalText_of_required hnew hrule, hgiven, htext]
      | forbidden =>
        rw [Submission.normalText_of_forbidden hrule, get_eq_none_of_forbidden (hstage ▸ hrule),
          Option.map_none]

/-- The normal form of an accepted submission is accepted in its place. -/
theorem ofSubmission_normal (h : ofSubmission s = .ok auth) : ofSubmission s.normal = .ok auth := by
  rw [← toSubmission_of_ofSubmission h, ofSubmission_toSubmission]

theorem normal_normal_of_ofSubmission (h : ofSubmission s = .ok auth) :
    s.normal.normal = s.normal := by
  rw [← toSubmission_of_ofSubmission (ofSubmission_normal h), toSubmission_of_ofSubmission h]

/-- Submissions become one authorization exactly if they have one normal form. -/
theorem eq_iff_normal_eq (h : ofSubmission s = .ok auth) (h' : ofSubmission s' = .ok auth') :
    auth = auth' ↔ s.normal = s'.normal := by
  rw [← toSubmission_of_ofSubmission h, ← toSubmission_of_ofSubmission h']
  refine ⟨congrArg toSubmission, fun hflat => ?_⟩
  have hback := ofSubmission_toSubmission auth
  rw [hflat, ofSubmission_toSubmission] at hback
  exact (Except.ok.inj hback).symm

/-- Flat forms and authorizations are the same thing, but for what the normal form drops. Every
authorization comes back from its flat form. The flat form of an authorization has the stage of the
submission that it was made of, the artifacts that this stage requires, as they were given, and no
others; it has none at all if the submission describes a new job. So it is a normal form, from which
the same authorization is made, and which is its own normal form. Two submissions that are accepted
become one authorization exactly if their normal forms are the same. -/
theorem toSubmission_eq_normal :
    (∀ auth : Authorization, ofSubmission auth.toSubmission = .ok auth) ∧
    ∀ (s : Submission) (auth : Authorization), ofSubmission s = .ok auth →
      auth.toSubmission.stage = s.stage ∧
      (¬s.DescribesNew → ∀ a, s.stage.rule a = .required →
        ∃ text, s.get a = some text ∧ auth.toSubmission.get a = some text) ∧
      (∀ a, s.stage.rule a = .forbidden → auth.toSubmission.get a = none) ∧
      (s.DescribesNew → ∀ a, auth.toSubmission.get a = none) ∧
      auth.toSubmission = s.normal ∧
      ofSubmission s.normal = .ok auth ∧
      s.normal.normal = s.normal ∧
      ∀ (s' : Submission) (auth' : Authorization), ofSubmission s' = .ok auth' →
        (auth = auth' ↔ s.normal = s'.normal) := by
  refine ⟨ofSubmission_toSubmission, fun s auth h => ?_⟩
  have hflat := toSubmission_of_ofSubmission h
  refine ⟨?_, fun hnew a ha => ?_, fun a ha => ?_, fun hnew a => ?_, hflat, ofSubmission_normal h,
    normal_normal_of_ofSubmission h, fun s' auth' h' => eq_iff_normal_eq h h'⟩
  · rw [hflat, Submission.stage_normal]
  · rw [get_toSubmission]
    exact exists_text_of_required h hnew ha
  · rw [hflat, Submission.get_normal, Submission.normalText_of_forbidden ha]
  · rw [hflat, Submission.get_normal, hnew.normalText_eq]

end Authorization

end EscrowLedger
