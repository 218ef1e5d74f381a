import EscrowLedger.Proofs.Escrow.Conversion
import EscrowLedger.Proofs.Escrow.Transport
import EscrowLedger.Proofs.Json.Agreement
import EscrowLedger.Proofs.Json.Shown

/-!
# Which texts show an authorization

An authorization is read from an object, or from an array of up to six items, that names a stage and
gives texts for the artifacts. A text may be left out or be `null`. What is given must describe a
new job or pass the check; then the authorization holds exactly the texts that are not empty.

## Main definitions

* `Submission.IsShownBy`, `Authorization.IsShownBy` — what an outline must show.

## Main statements

* `Submission.ofOutline_eq_ok_iff`, `Authorization.ofOutline_eq_ok_iff` — exactly what is shown is
  read.
* `Submission.agrees_format`, `Authorization.agrees_format` — values and their texts are decoded
  alike.
-/

namespace EscrowLedger

open Json (Format Layout Outline)

namespace Stage

theorem agrees_format : format.Agrees := Format.agrees_choice _

theorem name_inj {s t : Stage} (h : s.name = t.name) : s = t := by
  have hs := ofName?_name s
  rw [h, ofName?_name] at hs
  exact (Option.some.inj hs).symm

theorem ofOutline_eq_ok_iff {o : Outline} {s : Stage} :
    format.ofOutline o = .ok s ↔ o.Names s.name :=
  Format.ofOutline_named_eq_ok_iff name_inj (mem_all s)

end Stage

theorem Artifact.name_inj {a b : Artifact} (h : a.name = b.name) : a = b := by
  have hread : ∀ a : Artifact, ofName? a.name = some a := by
    intro a
    cases a <;> rfl
  have ha := hread a
  rw [h, hread b] at ha
  exact (Option.some.inj ha).symm

namespace Submission

/-- The names of the members of a submission, in the order of declaration. -/
def memberNames : List String := "stage" :: Artifact.all.map Artifact.name

/-- Whether members give a submission: they name its stage and give the texts of its artifacts. -/
structure GivenBy (s : Submission) (ms : List (String × Outline)) : Prop where
  stage : ∃ o, Table.lookup "stage" ms = some o ∧ o.Names s.stage.name
  texts : ∀ a : Artifact, Outline.GivesText (Table.lookup a.name ms) (s.get a)

/-- Whether an outline shows a submission. -/
def IsShownBy (s : Submission) (o : Outline) : Prop :=
  ∃ ms, o.Gives memberNames ms ∧ s.GivenBy ms

theorem names_layout : layout.names = memberNames := rfl

theorem isLawful_layout : layout.IsLawful where
  independent := by
    apply List.pairwise_cons.2
    constructor
    · intro f hf
      obtain ⟨a, -, rfl⟩ := List.mem_map.1 hf
      apply Json.Field.independent_of
      · cases a <;> decide
      · intro p s t
        rfl
      · intro p t
        rfl
      · intro p s
        rfl
    · apply List.pairwise_map.2
      have hnodup : Artifact.all.Nodup := by decide
      refine hnodup.imp fun {a b} hne => ?_
      apply Json.Field.independent_of
      · intro hname
        exact hne (Artifact.name_inj hname)
      · intro p s t
        simp only [Parts.setText]
        congr 1
        funext c
        by_cases hb : c = b
        · rw [if_pos hb, if_pos hb, if_neg (hb ▸ hne.symm)]
        · rw [if_neg hb, if_neg hb]
      · intro p t
        exact if_neg hne
      · intro p s
        exact if_neg hne.symm
  isSet_blank := by
    intro f hf
    rcases List.mem_cons.1 hf with rfl | hf
    · rfl
    · obtain ⟨a, -, rfl⟩ := List.mem_map.1 hf
      rfl
  isSet_read := by
    intro f hf p o p' h
    rcases List.mem_cons.1 hf with rfl | hf
    · refine Json.Field.isSet_of (fun p s => ?_) h
      rfl
    · obtain ⟨a, -, rfl⟩ := List.mem_map.1 hf
      exact Json.Field.isSet_of (fun _ _ => if_pos rfl) h
  assemble_congr absent absent' p := by
    simp only [layout, Parts.assemble]
    cases p.stage <;> rfl

/-- Values and their texts are decoded alike. -/
theorem agrees_format : format.Agrees := by
  apply Layout.agrees isLawful_layout
  intro f hf
  rcases List.mem_cons.1 hf with rfl | hf
  · exact Json.Field.agrees_of Stage.agrees_format _ _ _
  · obtain ⟨a, -, rfl⟩ := List.mem_map.1 hf
    exact Json.Field.agrees_of (Format.agrees_optional Format.agrees_text) _ _ _

section Members

variable {ms : List (String × Outline)}

/-- What members give for an artifact. It may be left out, and it may be `null`. -/
def text? (ms : List (String × Outline)) (a : Artifact) : Option (Option (Option String)) :=
  (Format.optional .text).given? (Table.lookup a.name ms)

/-- Puts what is given for an artifact into its part. -/
def Parts.putText (p : Parts) (a : Artifact) (t : Option (Option String)) : Parts :=
  { p with texts := fun b => if b = a then t.or (p.texts b) else p.texts b }

theorem receive?_artifactField (a : Artifact) (p : Parts) :
    Json.Field.receive? Json.Field.outline? (Table.lookup · ms) p (artifactField a)
      = (text? ms a).map (p.putText a) := by
  apply Json.Field.receive?_of
  · simp [Parts.putText]
  · intro t
    simp [Parts.putText, Parts.setText]

theorem exists_text?_of_foldlM {as : List Artifact} {p p' : Parts}
    (h : as.foldlM (fun p a => (text? ms a).map (p.putText a)) p = some p') {a : Artifact}
    (ha : a ∈ as) : ∃ t, text? ms a = some t := by
  induction as generalizing p with
  | nil => cases ha
  | cons b as ih =>
    rw [List.foldlM_cons] at h
    obtain ⟨q, hb, h⟩ := Option.bind_eq_some_iff.1 h
    rcases List.mem_cons.1 ha with rfl | ha
    · obtain ⟨t, ht, -⟩ := Option.map_eq_some_iff.1 hb
      exact ⟨t, ht⟩
    · exact ih h ha

theorem foldlM_putText (t : Artifact → Option (Option String)) {as : List Artifact}
    (h : ∀ a ∈ as, text? ms a = some (t a)) (p : Parts) :
    as.foldlM (fun p a => (text? ms a).map (p.putText a)) p
      = some ⟨p.stage, fun a => if a ∈ as then (t a).or (p.texts a) else p.texts a⟩ := by
  induction as generalizing p with
  | nil => rfl
  | cons a as ih =>
    obtain ⟨ha, has⟩ := List.forall_mem_cons.1 h
    rw [List.foldlM_cons, ha]
    refine (ih has _).trans ?_
    congr 2
    funext b
    by_cases hb : b = a
    · subst hb
      cases t b <;> simp [Parts.putText]
    · simp [Parts.putText, hb]

theorem assemble_eq_ok_iff {absent : String → Json.Fault} {p : Parts} {s : Submission} :
    p.assemble absent = .ok s ↔ p.stage = some s.stage ∧ ∀ a, (p.texts a).getD none = s.get a := by
  constructor
  · intro h
    obtain ⟨stage, hstage, h⟩ := Except.bind_eq_ok_iff.1 h
    obtain rfl := Except.ok.inj h
    constructor
    · cases hp : p.stage with
      | none =>
        rw [hp] at hstage
        cases hstage
      | some _ =>
        rw [hp] at hstage
        obtain rfl := Except.ok.inj hstage
        simp [Artifact.all, empty]
    · intro a
      simp only [Artifact.all]
      cases a <;> simp [get_put]
  · rintro ⟨hstage, htexts⟩
    exact assemble_eq absent hstage htexts

/-- The parts that members give, if what they give can be read. -/
theorem collect?_eq_some_iff {p : Parts} :
    layout.collect? Json.Field.outline? (Table.lookup · ms) = some p ↔
      Stage.format.given? (Table.lookup "stage" ms) = some p.stage ∧
        ∀ a, text? ms a = some (p.texts a) := by
  have hcollect : layout.collect? Json.Field.outline? (Table.lookup · ms)
      = (Stage.format.given? (Table.lookup "stage" ms)).bind fun stage =>
        Artifact.all.foldlM (fun p a => (text? ms a).map (p.putText a)) ⟨stage, fun _ => none⟩ := by
    refine Json.Field.foldlM_receive?_of (fun stage => (⟨stage, fun _ => none⟩ : Parts)) rfl
      (fun _ => rfl) fun stage => ?_
    simp only [List.foldlM_map, receive?_artifactField]
  have hall : ∀ (stage : Option Stage) (t : Artifact → Option (Option String)),
      (∀ a ∈ Artifact.all, text? ms a = some (t a)) →
      Artifact.all.foldlM (fun p a => (text? ms a).map (Parts.putText p a)) ⟨stage, fun _ => none⟩
        = some ⟨stage, t⟩ := by
    intro stage t ht
    rw [foldlM_putText t ht]
    simp [Artifact.mem_all]
  rw [hcollect, Option.bind_eq_some_iff]
  constructor
  · rintro ⟨stage, hstage, hp⟩
    have htexts : ∀ a ∈ Artifact.all, text? ms a = some ((text? ms a).getD none) := by
      intro a ha
      obtain ⟨t, ht⟩ := exists_text?_of_foldlM hp ha
      rw [ht, Option.getD_some]
    rw [hall stage _ htexts] at hp
    obtain rfl := Option.some.inj hp
    exact ⟨hstage, fun a => htexts a (Artifact.mem_all a)⟩
  · rintro ⟨hstage, htexts⟩
    exact ⟨p.stage, hstage, hall p.stage p.texts fun a _ => htexts a⟩

/-- Members make up a submission exactly if they give it. -/
theorem record?_eq_some_iff {s : Submission} :
    layout.record? Json.Field.outline? ms = some s ↔ s.GivenBy ms := by
  simp only [Layout.record?, Option.bind_eq_some_iff, collect?_eq_some_iff,
    Except.toOption_eq_some_iff]
  constructor
  · rintro ⟨p, ⟨hstage, htexts⟩, hp⟩
    obtain ⟨hs, hget⟩ := assemble_eq_ok_iff.1 hp
    constructor
    · obtain ⟨o, ho, hread⟩ := Format.given?_eq_some_some_iff.1 (hs ▸ hstage)
      exact ⟨o, ho, Stage.ofOutline_eq_ok_iff.1 hread⟩
    · intro a
      apply Format.given?_optional_text_iff.1
      exact ⟨p.texts a, htexts a, hget a⟩
  · rintro ⟨⟨o, ho, hnames⟩, htexts⟩
    obtain ⟨t, ht⟩ := Classical.axiomOfChoice fun a => Format.given?_optional_text_iff.2 (htexts a)
    refine ⟨⟨some s.stage, t⟩, ⟨?_, fun a => (ht a).1⟩,
      assemble_eq_ok_iff.2 ⟨rfl, fun a => (ht a).2⟩⟩
    exact Format.given?_eq_some_some_iff.2 ⟨o, ho, Stage.ofOutline_eq_ok_iff.2 hnames⟩

end Members

theorem ofOutline_eq_ok_iff {o : Outline} {s : Submission} :
    format.ofOutline o = .ok s ↔ s.IsShownBy o := by
  rw [format, Layout.ofOutline_eq_ok_iff isLawful_layout, names_layout]
  simp only [record?_eq_some_iff, IsShownBy]

end Submission

namespace Authorization

/-- Whether a submission becomes an authorization: it describes a new job, or it passes the check
and gives the artifacts of the authorization; texts that are empty count as absent. -/
inductive ComesFrom (auth : Authorization) (s : Submission) : Prop
  | new (describes : s.DescribesNew) (unkeyed : auth = .unkeyed)
  | checked (passes : s.check = .ok ()) (stage : auth.stage = s.stage)
      (texts : ∀ a, (auth.get a).map (·.text) = (s.get a).filter (· ≠ ""))

/-- Whether an outline shows an authorization. -/
def IsShownBy (auth : Authorization) (o : Outline) : Prop :=
  ∃ s : Submission, s.IsShownBy o ∧ auth.ComesFrom s

/-- An authorization is known by its stage and its artifacts. -/
theorem ext_get {auth auth' : Authorization} (hstage : auth.stage = auth'.stage)
    (hget : ∀ a, (auth.get a).map (·.text) = (auth'.get a).map (·.text)) : auth = auth' := by
  have hflat : auth.toSubmission = auth'.toSubmission := by
    apply Submission.ext_get
    · rw [stage_toSubmission, stage_toSubmission, hstage]
    · intro a
      rw [get_toSubmission, get_toSubmission, hget a]
  have hback := ofSubmission_toSubmission auth
  rw [hflat, ofSubmission_toSubmission] at hback
  exact (Except.ok.inj hback).symm

theorem ofSubmission_eq_ok_iff {s : Submission} {auth : Authorization} :
    ofSubmission s = .ok auth ↔ auth.ComesFrom s := by
  by_cases hnew : s.DescribesNew
  · rw [ofSubmission_of_describesNew hnew]
    constructor
    · rintro ⟨⟩
      exact .new hnew rfl
    · intro h
      cases h with
      | new _ hunkeyed => rw [hunkeyed]
      | checked hpasses => exact absurd hpasses hnew.check_ne_ok
  · constructor
    · intro h
      have hpasses := (exists_ofSubmission_iff hnew).1 ⟨auth, h⟩
      obtain ⟨auth', hauth', -, hstage, htexts⟩ := exists_ofSubmission hpasses
      obtain rfl := Except.ok.inj (h.symm.trans hauth')
      exact .checked hpasses hstage htexts
    · intro h
      cases h with
      | new hdescribes => exact absurd hdescribes hnew
      | checked hpasses hstage htexts =>
        obtain ⟨auth', hauth', -, hstage', htexts'⟩ := exists_ofSubmission hpasses
        rw [hauth', ext_get (hstage.trans hstage'.symm) fun a => (htexts a).trans (htexts' a).symm]

theorem agrees_format : format.Agrees := Submission.agrees_format.refine _

theorem ofOutline_eq_ok_iff {o : Outline} {auth : Authorization} :
    format.ofOutline o = .ok auth ↔ auth.IsShownBy o := by
  change (Submission.format.ofOutline o >>= _) = _ ↔ _
  rw [Except.bind_eq_ok_iff]
  constructor
  · rintro ⟨s, hs, h⟩
    refine ⟨s, Submission.ofOutline_eq_ok_iff.1 hs, ofSubmission_eq_ok_iff.1 ?_⟩
    split at h
    · next auth' hauth' => rwa [← Except.ok.inj h]
    · cases h
  · rintro ⟨s, hs, hcomes⟩
    refine ⟨s, Submission.ofOutline_eq_ok_iff.2 hs, ?_⟩
    rw [ofSubmission_eq_ok_iff.2 hcomes]

end Authorization

end EscrowLedger
