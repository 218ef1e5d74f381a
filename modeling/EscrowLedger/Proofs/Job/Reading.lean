import EscrowLedger.Job.Transport
import EscrowLedger.Proofs.Escrow.Reading
import EscrowLedger.Proofs.Instant.Spelling
import EscrowLedger.Proofs.Json.Rearrangement

/-!
# Which texts show a job

A job is read from an object, or from an array of seven items, that gives a state, three texts for
the services and the type of the data, two timestamps and an authorization. Its last change must not
lie before its creation, whatever offsets the timestamps are written with. The job that is read
holds exactly what is given.

## Main definitions

* `Job.Unordered.IsShownBy` — what an outline must show.
* `Job.unordered` — what a job holds.

## Main statements

* `Job.ofOutline_eq_ok_iff`, `Job.exists_isShownBy_iff` — exactly what is shown is read.
-/

namespace EscrowLedger

open Json (Format Layout Outline)

namespace JobState

theorem mem_all (s : JobState) : s ∈ all := by
  cases s <;> simp [all]

theorem name_inj {s t : JobState} (h : s.name = t.name) : s = t := by
  cases s <;> cases t <;> simp [name] at h ⊢

theorem ofOutline_eq_ok_iff {o : Outline} {s : JobState} :
    format.ofOutline o = .ok s ↔ o.Names s.name :=
  Format.ofOutline_named_eq_ok_iff name_inj (mem_all s)

end JobState

namespace Instant

theorem ofOutline_eq_ok_iff {o : Outline} {i : Instant} :
    format.ofOutline o = .ok i ↔ ∃ s, o = .string (some s) ∧ i.IsSpelledBy s := by
  rw [format, Format.ofOutline_ofText_eq_ok_iff]
  constructor
  · rintro ⟨s, rfl, h⟩
    refine ⟨s, rfl, ofText?_eq_some_iff.1 ?_⟩
    split at h
    · next hread => rw [hread, Except.ok.inj h]
    · cases h
  · rintro ⟨s, rfl, h⟩
    refine ⟨s, rfl, ?_⟩
    rw [ofText?_eq_some_iff.2 h]

end Instant

namespace Job

/-- The names of the members of a job, in the order of declaration. -/
def memberNames : List String :=
  ["state", "exportService", "importService", "transferDataType", "createdTimestamp",
    "lastUpdateTimestamp", "jobAuthorization"]

namespace Unordered

/-- Whether members give a job. -/
structure GivenBy (u : Unordered) (ms : List (String × Outline)) : Prop where
  state : ∃ o, Table.lookup "state" ms = some o ∧ o.Names u.state.name
  exportService :
    Table.lookup "exportService" ms = some (.string (some u.services.exportService))
  importService :
    Table.lookup "importService" ms = some (.string (some u.services.importService))
  dataType : Table.lookup "transferDataType" ms = some (.string (some u.services.dataType))
  created : ∃ s, Table.lookup "createdTimestamp" ms = some (.string (some s)) ∧
    u.created.IsSpelledBy s
  lastUpdate : ∃ s, Table.lookup "lastUpdateTimestamp" ms = some (.string (some s)) ∧
    u.lastUpdate.IsSpelledBy s
  authorization : ∃ o, Table.lookup "jobAuthorization" ms = some o ∧ u.authorization.IsShownBy o

/-- Whether an outline shows a job, apart from the order of its times. -/
def IsShownBy (u : Unordered) (o : Outline) : Prop :=
  ∃ ms, o.Gives memberNames ms ∧ u.GivenBy ms

end Unordered

theorem names_layout : layout.names = memberNames := rfl

theorem isLawful_layout : layout.IsLawful where
  independent := by
    simp only [layout, List.pairwise_cons, List.forall_mem_cons, List.not_mem_nil, false_implies,
      implies_true, List.Pairwise.nil, and_true]
    and_intros
    all_goals
      apply Json.Field.independent_of
      · decide
      · intro p x y
        rfl
      · intro p y
        rfl
      · intro p x
        rfl
  isSet_blank := by
    simp only [layout, List.forall_mem_cons, List.not_mem_nil, false_implies, implies_true,
      and_true]
    and_intros
    all_goals rfl
  isSet_read := by
    simp only [layout, List.forall_mem_cons, List.not_mem_nil, false_implies, implies_true,
      and_true]
    and_intros
    all_goals
      intro p o p' h
      refine Json.Field.isSet_of (fun p x => ?_) h
      rfl
  assemble_congr absent absent' p := by
    simp only [layout, Parts.assemble, Except.toOption_bind, Json.toOption_need]

section Members

variable {ms : List (String × Outline)}

theorem assemble_eq_ok_iff {absent : String → Json.Fault} {p : Parts} {u : Unordered} :
    p.assemble absent = .ok u ↔ p = ⟨some u.state, some u.services.exportService,
      some u.services.importService, some u.services.dataType, some u.created, some u.lastUpdate,
      some u.authorization⟩ := by
  constructor
  · intro h
    obtain ⟨state, exportService, importService, dataType, created, lastUpdate, authorization⟩ := p
    simp only [Parts.assemble, ← Except.toOption_eq_some_iff, Except.toOption_bind,
      Json.toOption_need, Option.bind_eq_some_iff] at h
    obtain ⟨_, rfl, _, rfl, _, rfl, _, rfl, _, rfl, _, rfl, _, rfl, h⟩ := h
    cases h
    rfl
  · rintro rfl
    rfl

/-- The parts that members give, one after the other. -/
theorem collect?_eq : layout.collect? Json.Field.outline? (Table.lookup · ms) = (do
    let state ← JobState.format.given? (Table.lookup "state" ms)
    let exportService ← Format.text.given? (Table.lookup "exportService" ms)
    let importService ← Format.text.given? (Table.lookup "importService" ms)
    let dataType ← Format.text.given? (Table.lookup "transferDataType" ms)
    let created ← Instant.format.given? (Table.lookup "createdTimestamp" ms)
    let lastUpdate ← Instant.format.given? (Table.lookup "lastUpdateTimestamp" ms)
    let authorization ← Authorization.format.given? (Table.lookup "jobAuthorization" ms)
    some ⟨state, exportService, importService, dataType, created, lastUpdate, authorization⟩) := by
  refine Json.Field.foldlM_receive?_of
    (fun state => (⟨state, none, none, none, none, none, none⟩ : Parts))
    rfl (fun _ => rfl) fun state => ?_
  refine Json.Field.foldlM_receive?_of
    (fun s => (⟨state, s, none, none, none, none, none⟩ : Parts))
    rfl (fun _ => rfl) fun exportService => ?_
  refine Json.Field.foldlM_receive?_of
    (fun s => (⟨state, exportService, s, none, none, none, none⟩ : Parts))
    rfl (fun _ => rfl) fun importService => ?_
  refine Json.Field.foldlM_receive?_of
    (fun s => (⟨state, exportService, importService, s, none, none, none⟩ : Parts))
    rfl (fun _ => rfl) fun dataType => ?_
  refine Json.Field.foldlM_receive?_of
    (fun i => (⟨state, exportService, importService, dataType, i, none, none⟩ : Parts))
    rfl (fun _ => rfl) fun created => ?_
  refine Json.Field.foldlM_receive?_of
    (fun i => (⟨state, exportService, importService, dataType, created, i, none⟩ : Parts))
    rfl (fun _ => rfl) fun lastUpdate => ?_
  exact Json.Field.foldlM_receive?_of
    (fun a => (⟨state, exportService, importService, dataType, created, lastUpdate, a⟩ : Parts))
    rfl (fun _ => rfl) fun _ => rfl

/-- Members make up a job exactly if they give it. -/
theorem record?_eq_some_iff {u : Unordered} :
    layout.record? Json.Field.outline? ms = some u ↔ u.GivenBy ms := by
  have htext : ∀ {o? : Option Outline} {s : String},
      Format.text.given? o? = some (some s) ↔ o? = some (.string (some s)) := by
    intro o? s
    simp [Format.given?_eq_some_some_iff, Format.ofOutline_text_eq_ok_iff]
  have hinstant : ∀ {o? : Option Outline} {i : Instant}, Instant.format.given? o? = some (some i) ↔
      ∃ s, o? = some (.string (some s)) ∧ i.IsSpelledBy s := by
    intro o? i
    rw [Format.given?_eq_some_some_iff]
    simp only [Instant.ofOutline_eq_ok_iff]
    constructor
    · rintro ⟨_, ho, s, rfl, hs⟩
      exact ⟨s, ho, hs⟩
    · rintro ⟨s, ho, hs⟩
      exact ⟨_, ho, s, rfl, hs⟩
  simp only [Layout.record?, Option.bind_eq_some_iff, Except.toOption_eq_some_iff, collect?_eq,
    Option.bind_eq_bind]
  constructor
  · rintro ⟨p, ⟨state, hstate, exportService, hexport, importService, himport, dataType, hdata,
      created, hcreated, lastUpdate, hlast, authorization, hauth, ⟨⟩⟩, hp⟩
    cases assemble_eq_ok_iff.1 hp
    obtain ⟨o, ho, hname⟩ := Format.given?_eq_some_some_iff.1 hstate
    obtain ⟨o', ho', hshown⟩ := Format.given?_eq_some_some_iff.1 hauth
    exact ⟨⟨o, ho, JobState.ofOutline_eq_ok_iff.1 hname⟩, htext.1 hexport, htext.1 himport,
      htext.1 hdata, hinstant.1 hcreated, hinstant.1 hlast,
      ⟨o', ho', Authorization.ofOutline_eq_ok_iff.1 hshown⟩⟩
  · intro h
    obtain ⟨o, ho, hname⟩ := h.state
    obtain ⟨o', ho', hshown⟩ := h.authorization
    have hstate := Format.given?_eq_some_some_iff.2 ⟨o, ho, JobState.ofOutline_eq_ok_iff.2 hname⟩
    have hauth :=
      Format.given?_eq_some_some_iff.2 ⟨o', ho', Authorization.ofOutline_eq_ok_iff.2 hshown⟩
    refine ⟨_, ⟨_, hstate, _, htext.2 h.exportService, _, htext.2 h.importService, _,
      htext.2 h.dataType, _, hinstant.2 h.created, _, hinstant.2 h.lastUpdate, _, hauth, rfl⟩, ?_⟩
    exact assemble_eq_ok_iff.2 rfl

end Members

theorem ofOutline_layout_eq_ok_iff {o : Outline} {u : Unordered} :
    layout.format.ofOutline o = .ok u ↔ u.IsShownBy o := by
  rw [Layout.ofOutline_eq_ok_iff isLawful_layout, names_layout]
  simp only [record?_eq_some_iff, Unordered.IsShownBy]

/-- What a job holds, apart from the order of its times. -/
def unordered (j : Job) : Unordered :=
  ⟨j.state, j.services, j.created, j.lastUpdate, j.authorization⟩

theorem ofUnordered_eq_ok_iff {u : Unordered} {j : Job} :
    ofUnordered u = .ok j ↔ j.unordered = u := by
  rw [ofUnordered]
  constructor
  · intro h
    split at h
    · cases h
      rfl
    · cases h
  · rintro rfl
    exact dif_pos j.created_le

theorem ofOutline_eq_ok_iff {o : Outline} {j : Job} :
    format.ofOutline o = .ok j ↔ j.unordered.IsShownBy o := by
  change (layout.format.ofOutline o >>= _) = _ ↔ _
  rw [Except.bind_eq_ok_iff]
  constructor
  · rintro ⟨u, hu, h⟩
    have hj : ofUnordered u = .ok j := by
      split at h
      · next j' hj' => rwa [← Except.ok.inj h]
      · cases h
    rw [ofUnordered_eq_ok_iff.1 hj]
    exact ofOutline_layout_eq_ok_iff.1 hu
  · intro h
    refine ⟨j.unordered, ofOutline_layout_eq_ok_iff.2 h, ?_⟩
    rw [ofUnordered_eq_ok_iff.2 rfl]

/-- A job is read exactly if one is shown that was not changed before it was created. -/
theorem exists_isShownBy_iff {o : Outline} :
    (∃ j : Job, j.unordered.IsShownBy o) ↔
      ∃ u : Unordered, u.IsShownBy o ∧ u.created ≤ u.lastUpdate := by
  constructor
  · rintro ⟨j, hj⟩
    exact ⟨j.unordered, hj, j.created_le⟩
  · rintro ⟨u, hu, hle⟩
    exact ⟨⟨u.state, u.services, u.created, u.lastUpdate, u.authorization, hle⟩, hu⟩

end Job

end EscrowLedger
