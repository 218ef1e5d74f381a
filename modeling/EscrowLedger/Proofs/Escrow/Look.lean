import EscrowLedger.Proofs.Escrow.Conversion

/-!
# What artifacts look like

The verdict on a submission rests on what its artifacts look like: one that is required must have
content, one that is forbidden must be nothing. Beyond this the text of an artifact is a secret.
Submissions that look alike are accepted or refused alike, for the same reason, and lead to
authorizations that have the same stage and the same artifacts present.

## Main definitions

* `Look` — nothing, white space, or content.
* `Submission.LooksLike`, `Authorization.LooksLike` — the same stage, and artifacts that look alike.

## Main statements

* `Submission.LooksLike.check_eq` — the check.
* `Submission.LooksLike.ofSubmission` — the conversion.
-/

namespace EscrowLedger

/-- What a text looks like, without its content. -/
inductive Look where
  /-- The text is absent or empty. -/
  | nothing
  /-- There is white space only. -/
  | blank
  | content
deriving DecidableEq

namespace Look

def ofText? : Option String → Look
  | none => .nothing
  | some text => if text = "" then .nothing else if Text.isBlank text then .blank else .content

theorem ofText?_eq_nothing_iff {text : Option String} :
    ofText? text = .nothing ↔ text.getD "" = "" := by
  cases text with
  | none => exact ⟨fun _ => rfl, fun _ => rfl⟩
  | some text =>
    rw [ofText?, Option.getD_some]
    by_cases hempty : text = ""
    · rw [if_pos hempty]
      exact ⟨fun _ => hempty, fun _ => rfl⟩
    · rw [if_neg hempty]
      split <;> simp [hempty]

theorem ofText?_eq_content_iff {text : Option String} :
    ofText? text = .content ↔ Text.isBlank (text.getD "") = false := by
  cases text with
  | none =>
    rw [Option.getD_none, Text.isBlank_empty]
    constructor <;> rintro ⟨⟩
  | some text =>
    rw [ofText?, Option.getD_some]
    by_cases hempty : text = ""
    · rw [if_pos hempty, hempty, Text.isBlank_empty]
      constructor <;> rintro ⟨⟩
    · rw [if_neg hempty]
      cases Text.isBlank text <;> simp

/-- The text of an artifact has content. -/
theorem ofText?_text (content : Sealed) : ofText? (some content.text) = .content :=
  ofText?_eq_content_iff.2 content.not_blank

variable {text text' : Option String}

theorem isBlank_eq (h : ofText? text = ofText? text') :
    Text.isBlank (text.getD "") = Text.isBlank (text'.getD "") := by
  rw [← Bool.not_inj_iff, Bool.eq_iff_iff]
  simp only [Bool.not_eq_true', ← ofText?_eq_content_iff, h]

theorem isBroken_eq (h : ofText? text = ofText? text') (rule : Rule) :
    rule.isBroken (text.getD "") = rule.isBroken (text'.getD "") := by
  cases rule with
  | required => exact isBlank_eq h
  | forbidden =>
    have hempty : text.getD "" = "" ↔ text'.getD "" = "" := by
      rw [← ofText?_eq_nothing_iff, h, ofText?_eq_nothing_iff]
    simp only [Rule.isBroken, ne_eq, hempty]

end Look

-- ════════════════════════════════════════════════════════════════════════
-- Submissions
-- ════════════════════════════════════════════════════════════════════════

/-- Whether two submissions are for one stage and have artifacts that look alike. -/
structure Submission.LooksLike (s s' : Submission) : Prop where
  stage : s.stage = s'.stage
  look : ∀ a, Look.ofText? (s.get a) = Look.ofText? (s'.get a)

/-- Whether two authorizations have the same stage and the same artifacts present. -/
structure Authorization.LooksLike (auth auth' : Authorization) : Prop where
  stage : auth.stage = auth'.stage
  isSome : ∀ a, (auth.get a).isSome = (auth'.get a).isSome

/-- An authorization with a session key has the artifacts that its stage requires. -/
theorem Authorization.looksLike_of_keyed {auth auth' : Authorization} (h : auth.isUnkeyed = false)
    (h' : auth'.isUnkeyed = false) (hstage : auth.stage = auth'.stage) : auth.LooksLike auth' := by
  refine ⟨hstage, fun a => ?_⟩
  rw [Bool.eq_iff_iff, isSome_get_of_keyed h, isSome_get_of_keyed h', hstage]

theorem Authorization.LooksLike.refl (auth : Authorization) : auth.LooksLike auth :=
  ⟨rfl, fun _ => rfl⟩

namespace Submission

variable {s s' : Submission}

theorem describesNew_iff_look : s.DescribesNew ↔ s.stage = .initial ∧
    Look.ofText? (s.get .sessionKey) ≠ .content ∧
    ∀ a, a ≠ .sessionKey → Look.ofText? (s.get a) = .nothing := by
  have hkey : (∀ text, s.get .sessionKey = some text → Text.isBlank text = true) ↔
      Look.ofText? (s.get .sessionKey) ≠ .content := by
    rw [ne_eq, Look.ofText?_eq_content_iff, Bool.not_eq_false]
    cases s.get .sessionKey with
    | none => simp [Text.isBlank_empty]
    | some text => simp
  have hothers : ∀ a, s.get a = none ∨ s.get a = some "" ↔
      Look.ofText? (s.get a) = .nothing := by
    intro a
    rw [Look.ofText?_eq_nothing_iff]
    cases s.get a with
    | none => simp
    | some text => simp
  constructor
  · intro h
    exact ⟨h.stage, hkey.1 h.sessionKey, fun a ha => (hothers a).1 (h.others a ha)⟩
  · rintro ⟨hstage, hsession, hnothing⟩
    exact ⟨hstage, hkey.2 hsession, fun a ha => (hothers a).2 (hnothing a ha)⟩

namespace LooksLike

theorem breaks_eq (h : s.LooksLike s') (a : Artifact) : s.breaks a = s'.breaks a := by
  rw [breaks, breaks, h.stage]
  exact Look.isBroken_eq (h.look a) _

theorem check_eq (h : s.LooksLike s') : s.check = s'.check := by
  have hbreaks : s.breaks = s'.breaks := funext h.breaks_eq
  rw [check, check, hbreaks, h.stage]

theorem describesNew_iff (h : s.LooksLike s') : s.DescribesNew ↔ s'.DescribesNew := by
  simp only [describesNew_iff_look, h.stage, h.look]

/-- Submissions that look alike are converted to authorizations that look alike, or are refused for
one reason. -/
theorem ofSubmission (h : s.LooksLike s') : Except.Alike Authorization.LooksLike
    (Authorization.ofSubmission s) (Authorization.ofSubmission s') := by
  by_cases hnew : s.DescribesNew
  · rw [Authorization.ofSubmission_of_describesNew hnew,
      Authorization.ofSubmission_of_describesNew (h.describesNew_iff.1 hnew)]
    exact .ok (.refl .unkeyed)
  · have hnew' := mt h.describesNew_iff.2 hnew
    cases hcheck : s.check with
    | error v =>
      rw [(Authorization.ofSubmission_eq_error_iff hnew).2 hcheck,
        (Authorization.ofSubmission_eq_error_iff hnew').2 (h.check_eq ▸ hcheck)]
      exact .error v
    | ok _ =>
      obtain ⟨auth, hauth, hkeyed, hstage, -⟩ := Authorization.exists_ofSubmission hcheck
      obtain ⟨auth', hauth', hkeyed', hstage', -⟩ :=
        Authorization.exists_ofSubmission (h.check_eq ▸ hcheck)
      rw [hauth, hauth']
      exact .ok (Authorization.looksLike_of_keyed hkeyed hkeyed'
        (hstage.trans (h.stage.trans hstage'.symm)))

end LooksLike

end Submission

end EscrowLedger
