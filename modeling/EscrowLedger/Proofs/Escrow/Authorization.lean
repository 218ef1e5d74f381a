import EscrowLedger.Escrow.Authorization

/-!
# Artifacts of an authorization

An authorization has the artifacts that its stage requires and no others, and none of them is blank.
Only the authorization of a new job lacks the session key. The flat form of an authorization is a
submission that leads back to it, and passes the check unless it is that of a new job.

## Main definitions

* `Submission.ofTexts` — the submission with given texts.

## Main statements

* `Submission.check_eq_ok_iff` — the check passes if no artifact breaks its rule.
* `Authorization.isSome_get`, `Authorization.exists_sessionKey` — which artifacts an authorization
  has.
* `Authorization.check_toSubmission` — when its flat form passes the check.
* `Authorization.ofSubmission_toSubmission` — an authorization comes back from its flat form.
* `Authorization.exists_ofSubmission` — what becomes of a submission that passes the check.
-/

namespace EscrowLedger

-- ════════════════════════════════════════════════════════════════════════
-- Submissions
-- ════════════════════════════════════════════════════════════════════════

namespace Submission

/-- The submission that gives texts for the artifacts of a stage. -/
def ofTexts (stage : Stage) (f : Artifact → Option String) : Submission :=
  ⟨stage, f .sessionKey, f .exportAuthData, f .importAuthData, f .publicKey, f .privateKey⟩

@[simp] theorem stage_ofTexts (stage : Stage) (f : Artifact → Option String) :
    (ofTexts stage f).stage = stage := rfl

@[simp] theorem get_ofTexts (stage : Stage) (f : Artifact → Option String) (a : Artifact) :
    (ofTexts stage f).get a = f a := by
  cases a <;> rfl

theorem check_eq_ok_iff {s : Submission} : s.check = .ok () ↔ ∀ a, s.breaks a = false := by
  rw [check]
  split
  · next a hfind =>
    have hbreaks := List.find?_some hfind
    constructor
    · rintro ⟨⟩
    · intro h
      rw [h a] at hbreaks
      cases hbreaks
  · next hfind =>
    refine ⟨fun _ a => ?_, fun _ => rfl⟩
    rw [← Bool.not_eq_true]
    exact List.find?_eq_none.1 hfind a (Artifact.mem_all a)

end Submission

namespace Authorization

-- ════════════════════════════════════════════════════════════════════════
-- The artifacts that are there
-- ════════════════════════════════════════════════════════════════════════

theorem isUnkeyed_eq_true_iff {auth : Authorization} : auth.isUnkeyed = true ↔ auth = unkeyed :=
  decide_eq_true_iff

theorem isSome_get_of_keyed {auth : Authorization} (h : auth.isUnkeyed = false) (a : Artifact) :
    (auth.get a).isSome = true ↔ auth.stage.rule a = .required := by
  cases auth with
  | initial key =>
    cases key with
    | none => cases h
    | some key => cases a <;> simp [get, stage, Stage.rule, sessionKey?, workerKeys?, credentials?]
  | credsAvailable key =>
    cases a <;> simp [get, stage, Stage.rule, sessionKey?, workerKeys?, credentials?]
  | credsEncryptionKeyGenerated key keys =>
    cases a <;> simp [get, stage, Stage.rule, sessionKey?, workerKeys?, credentials?]
  | credsEncrypted key keys credentials =>
    cases a <;> simp [get, stage, Stage.rule, sessionKey?, workerKeys?, credentials?]

/-- Every authorization but that of a new job has a session key. -/
theorem exists_sessionKey {auth : Authorization} (h : auth.isUnkeyed = false) :
    ∃ key, auth.get .sessionKey = some key := by
  have hrule : auth.stage.rule .sessionKey = .required := by cases auth <;> rfl
  exact Option.isSome_iff_exists.1 ((isSome_get_of_keyed h .sessionKey).2 hrule)

@[simp] theorem get_unkeyed (a : Artifact) : unkeyed.get a = none := by
  cases a <;> rfl

theorem isSome_get (auth : Authorization) (a : Artifact) :
    (auth.get a).isSome = true ↔ auth.stage.rule a = .required ∧ auth.isUnkeyed = false := by
  cases h : auth.isUnkeyed with
  | false => simpa using isSome_get_of_keyed h a
  | true =>
    obtain rfl := isUnkeyed_eq_true_iff.1 h
    simp

theorem get_eq_none_of_forbidden {auth : Authorization} {a : Artifact}
    (h : auth.stage.rule a = .forbidden) : auth.get a = none := by
  rw [← Option.not_isSome_iff_eq_none, isSome_get, h]
  rintro ⟨hrule, -⟩
  cases hrule

-- ════════════════════════════════════════════════════════════════════════
-- The flat form
-- ════════════════════════════════════════════════════════════════════════

theorem breaks_toSubmission {auth : Authorization} (h : auth.isUnkeyed = false) (a : Artifact) :
    auth.toSubmission.breaks a = false := by
  rw [Submission.breaks, stage_toSubmission, get_toSubmission]
  cases hrule : auth.stage.rule a with
  | required =>
    obtain ⟨content, hcontent⟩ := Option.isSome_iff_exists.1 ((isSome_get_of_keyed h a).2 hrule)
    rw [hcontent]
    exact content.not_blank
  | forbidden =>
    rw [get_eq_none_of_forbidden hrule]
    rfl

theorem check_toSubmission (auth : Authorization) :
    auth.toSubmission.check = .ok () ↔ auth.isUnkeyed = false := by
  rw [Submission.check_eq_ok_iff]
  constructor
  · intro h
    rw [← Bool.not_eq_true]
    intro hunkeyed
    obtain rfl := isUnkeyed_eq_true_iff.1 hunkeyed
    cases h .sessionKey
  · exact breaks_toSubmission

/-- The flat form describes a new job exactly if the authorization is that of a new job. -/
theorem isUnkeyed_toSubmission (auth : Authorization) :
    auth.toSubmission.isUnkeyed = auth.isUnkeyed := by
  cases h : auth.isUnkeyed with
  | true =>
    obtain rfl := isUnkeyed_eq_true_iff.1 h
    rfl
  | false =>
    obtain ⟨key, hget⟩ := exists_sessionKey h
    have htext : auth.toSubmission.sessionKey = some key.text := by
      have hsub := auth.get_toSubmission .sessionKey
      rw [hget] at hsub
      exact hsub
    rw [Submission.isUnkeyed, htext, Option.all_some, key.not_blank]
    simp

/-- An artifact that has not been taken out of a submission yet is taken out, and leaves the others
where they are. -/
theorem require_untaken {s : Submission} {auth : Authorization} {taken : List Artifact}
    (h : ∀ b content, b ∉ taken → auth.get b = some content → s.get b = some content.text)
    {a : Artifact} (ha : a ∉ taken) {content : Sealed} (hget : auth.get a = some content) :
    require a s = .ok (content, s.put a none) ∧ ∀ b content, b ∉ a :: taken →
      auth.get b = some content → (s.put a none).get b = some content.text := by
  constructor
  · rw [require, Submission.take, h a content ha hget, Option.bind_some, Sealed.ofText?_text]
  · intro b content hb hcontent
    obtain ⟨hne, hb⟩ := List.ne_and_not_mem_of_not_mem_cons hb
    rw [Submission.get_put, if_neg hne, h b content hb hcontent]

/-- An authorization is put together from a submission that gives all of its artifacts. -/
theorem run'_assemble {s : Submission} {auth : Authorization} (hkeyed : auth.isUnkeyed = false)
    (h : ∀ a content, auth.get a = some content → s.get a = some content.text) :
    (assemble auth.stage).run' s = .ok auth := by
  have hnone : ∀ b content, b ∉ [] → auth.get b = some content → s.get b = some content.text :=
    fun b content _ => h b content
  cases auth with
  | initial key =>
    cases key with
    | none => cases hkeyed
    | some key =>
      obtain ⟨hkey, -⟩ := require_untaken hnone (a := .sessionKey) (by simp) rfl
      simp only [assemble, stage, StateT.run', bind, StateT.bind, hkey]
      rfl
  | credsAvailable key =>
    obtain ⟨hkey, -⟩ := require_untaken hnone (a := .sessionKey) (by simp) rfl
    simp only [assemble, stage, StateT.run', bind, StateT.bind, hkey]
    rfl
  | credsEncryptionKeyGenerated key keys =>
    obtain ⟨hkey, h₁⟩ := require_untaken hnone (a := .sessionKey) (by simp) rfl
    obtain ⟨hpublic, h₂⟩ := require_untaken h₁ (a := .publicKey) (by simp) rfl
    obtain ⟨hprivate, -⟩ := require_untaken h₂ (a := .privateKey) (by simp) rfl
    simp only [assemble, stage, StateT.run', bind, StateT.bind, Except.bind, hkey, hpublic, hprivate]
    rfl
  | credsEncrypted key keys credentials =>
    obtain ⟨hkey, h₁⟩ := require_untaken hnone (a := .sessionKey) (by simp) rfl
    obtain ⟨hpublic, h₂⟩ := require_untaken h₁ (a := .publicKey) (by simp) rfl
    obtain ⟨hprivate, h₃⟩ := require_untaken h₂ (a := .privateKey) (by simp) rfl
    obtain ⟨hexport, h₄⟩ := require_untaken h₃ (a := .exportAuthData) (by simp) rfl
    obtain ⟨himport, -⟩ := require_untaken h₄ (a := .importAuthData) (by simp) rfl
    simp only [assemble, stage, StateT.run', bind, StateT.bind, Except.bind, hkey, hpublic, hprivate,
      hexport, himport]
    rfl

/-- An authorization comes back from its flat form. -/
@[simp] theorem ofSubmission_toSubmission (auth : Authorization) :
    ofSubmission auth.toSubmission = .ok auth := by
  rw [ofSubmission, isUnkeyed_toSubmission]
  cases h : auth.isUnkeyed with
  | true => rw [isUnkeyed_eq_true_iff.1 h, if_pos rfl]
  | false =>
    rw [if_neg Bool.false_ne_true, (check_toSubmission auth).2 h, stage_toSubmission]
    refine run'_assemble h fun a content hget => ?_
    rw [get_toSubmission, hget, Option.map_some]

-- ════════════════════════════════════════════════════════════════════════
-- Submissions that pass the check
-- ════════════════════════════════════════════════════════════════════════

/-- A submission that passes the check gives the artifacts of an authorization. -/
theorem exists_of_check {s : Submission} (h : s.check = .ok ()) : ∃ auth : Authorization,
    auth.isUnkeyed = false ∧ auth.stage = s.stage ∧
      ∀ a content, auth.get a = some content → s.get a = some content.text := by
  have hrequired : ∀ a, s.stage.rule a = .required →
      ∃ content : Sealed, s.get a = some content.text := by
    intro a hrule
    have hbreaks := Submission.check_eq_ok_iff.1 h a
    rw [Submission.breaks, hrule] at hbreaks
    cases hget : s.get a with
    | none =>
      rw [hget] at hbreaks
      cases hbreaks
    | some text =>
      rw [hget] at hbreaks
      exact ⟨⟨text, hbreaks⟩, rfl⟩
  cases hstage : s.stage with
  | initial =>
    rw [hstage] at hrequired
    obtain ⟨key, hkey⟩ := hrequired .sessionKey rfl
    refine ⟨.initial (some key), rfl, rfl, fun a content hget => ?_⟩
    cases a <;> simp_all [get, sessionKey?, workerKeys?, credentials?]
  | credsAvailable =>
    rw [hstage] at hrequired
    obtain ⟨key, hkey⟩ := hrequired .sessionKey rfl
    refine ⟨.credsAvailable key, rfl, rfl, fun a content hget => ?_⟩
    cases a <;> simp_all [get, sessionKey?, workerKeys?, credentials?]
  | credsEncryptionKeyGenerated =>
    rw [hstage] at hrequired
    obtain ⟨key, hkey⟩ := hrequired .sessionKey rfl
    obtain ⟨publicKey, hpublic⟩ := hrequired .publicKey rfl
    obtain ⟨privateKey, hprivate⟩ := hrequired .privateKey rfl
    refine ⟨.credsEncryptionKeyGenerated key ⟨publicKey, privateKey⟩, rfl, rfl,
      fun a content hget => ?_⟩
    cases a <;> simp_all [get, sessionKey?, workerKeys?, credentials?]
  | credsEncrypted =>
    rw [hstage] at hrequired
    obtain ⟨key, hkey⟩ := hrequired .sessionKey rfl
    obtain ⟨publicKey, hpublic⟩ := hrequired .publicKey rfl
    obtain ⟨privateKey, hprivate⟩ := hrequired .privateKey rfl
    obtain ⟨exportAuthData, hexport⟩ := hrequired .exportAuthData rfl
    obtain ⟨importAuthData, himport⟩ := hrequired .importAuthData rfl
    refine ⟨.credsEncrypted key ⟨publicKey, privateKey⟩ ⟨exportAuthData, importAuthData⟩, rfl, rfl,
      fun a content hget => ?_⟩
    cases a <;> simp_all [get, sessionKey?, workerKeys?, credentials?]

/-- A submission that passes the check is accepted, and every text in it that is not empty becomes
an artifact. -/
theorem exists_ofSubmission {s : Submission} (h : s.check = .ok ()) : ∃ auth,
    ofSubmission s = .ok auth ∧ auth.isUnkeyed = false ∧ auth.stage = s.stage ∧
      ∀ a, (auth.get a).map (·.text) = (s.get a).filter (· ≠ "") := by
  obtain ⟨auth, hkeyed, hstage, htext⟩ := exists_of_check h
  refine ⟨auth, ?_, hkeyed, hstage, fun a => ?_⟩
  · have hunkeyed : s.isUnkeyed = false := by
      obtain ⟨key, hget⟩ := exists_sessionKey hkeyed
      have hkey : s.sessionKey = some key.text := htext .sessionKey key hget
      rw [Submission.isUnkeyed, hkey, Option.all_some, key.not_blank]
      simp
    rw [ofSubmission, hunkeyed, if_neg Bool.false_ne_true, h, ← hstage]
    exact run'_assemble hkeyed htext
  · cases hrule : auth.stage.rule a with
    | required =>
      obtain ⟨content, hget⟩ := Option.isSome_iff_exists.1 ((isSome_get_of_keyed hkeyed a).2 hrule)
      have hne : content.text ≠ "" := Text.ne_empty_of_not_isBlank content.not_blank
      rw [hget, htext a content hget, Option.map_some, Option.filter_some,
        if_pos (by simpa using hne)]
    | forbidden =>
      have hbreaks := Submission.check_eq_ok_iff.1 h a
      rw [Submission.breaks, ← hstage, hrule] at hbreaks
      have hempty : (s.get a).getD "" = "" := by simpa [Rule.isBroken] using hbreaks
      rw [get_eq_none_of_forbidden hrule]
      cases hget : s.get a with
      | none => rfl
      | some text =>
        rw [hget, Option.getD_some] at hempty
        rw [hempty]
        rfl

end Authorization

end EscrowLedger
