import EscrowLedger.Proofs.Job.Reading

/-!
# Decoding jobs

Jobs reach the ledger from other processes, as values in memory or as texts. What is accepted is
exactly what shows a job, and the job that results is the one that is shown. The order of members
does not count, neither in a job nor in its authorization, and nor do members with unknown names;
but a text that repeats a known name is refused.

## Main definitions

* `Job.Rearranged` — outlines that give the same members, in another order or with other unknown
  ones.
* `Job.RepeatsKnown` — outlines that repeat a known name.

## Main statements

* `Job.decode_exact` — what is accepted, and as what.
* `Job.decodes_alike` — values and their texts are decoded alike.
-/

namespace EscrowLedger

open Json (Format Layout Outline Source)

theorem JobState.agrees_format : JobState.format.Agrees := Format.agrees_choice _

theorem Policy.agrees_format : Policy.format.Agrees := Format.agrees_choice _

theorem Instant.agrees_format : Instant.format.Agrees := Format.agrees_ofText _ _

theorem Authorization.IsShownBy.of_reordered {auth : Authorization} {o o' : Outline}
    (h : auth.IsShownBy o) (ho : o.Reordered Submission.memberNames o') : auth.IsShownBy o' := by
  obtain ⟨s, hs, hcomes⟩ := h
  refine ⟨s, Submission.ofOutline_eq_ok_iff.1 ?_, hcomes⟩
  apply Layout.ofOutline_of_reordered Submission.isLawful_layout ho
  exact Submission.ofOutline_eq_ok_iff.2 hs

theorem Authorization.not_isShownBy_of_repeats {auth : Authorization} {o : Outline}
    (h : o.Repeats Submission.memberNames) : ¬auth.IsShownBy o := by
  rintro ⟨s, ⟨ms, hgives, -⟩, -⟩
  exact h.not_gives ms hgives

namespace Job

/-- Whether two outlines differ only in the order of members, or in unknown members, of a job or of
its authorization. The authorization stands last if the job is an array. -/
inductive Rearranged : Outline → Outline → Prop
  | job {o o' : Outline} (h : o.Reordered memberNames o') : Rearranged o o'
  | member {before after : List (String × Outline)} {x x' : Outline}
      (h : x.Reordered Submission.memberNames x') :
    Rearranged (.object (Outline.named (before ++ ("jobAuthorization", x) :: after)))
      (.object (Outline.named (before ++ ("jobAuthorization", x') :: after)))
  | item {items : List Outline} {x x' : Outline} (h : x.Reordered Submission.memberNames x')
      (length : items.length = 6) : Rearranged (.array (items ++ [x])) (.array (items ++ [x']))
  | trans {o o' o'' : Outline} (h : Rearranged o o') (h' : Rearranged o' o'') : Rearranged o o''

theorem Rearranged.symm {o o' : Outline} (h : Rearranged o o') : Rearranged o' o := by
  induction h with
  | job h => exact .job h.symm
  | member h => exact .member h.symm
  | item h length => exact .item h.symm length
  | trans _ _ ih ih' => exact .trans ih' ih

namespace Unordered

variable {u : Unordered}

section Exchange

variable {before after : List (String × Outline)} {x x' : Outline}

theorem lookup_authorization
    (honce : Json.NamesOnce memberNames (before ++ ("jobAuthorization", x) :: after)) :
    Table.lookup "jobAuthorization" (before ++ ("jobAuthorization", x) :: after) = some x := by
  apply (honce.lookup_eq_some_iff (by decide)).2
  exact List.mem_append_right _ List.mem_cons_self

theorem namesOnce_exchange
    (honce : Json.NamesOnce memberNames (before ++ ("jobAuthorization", x) :: after)) :
    Json.NamesOnce memberNames (before ++ ("jobAuthorization", x') :: after) := by
  apply honce.of_names
  simp only [List.map_append, List.map_cons]

theorem lookup_exchange (name : String) (hne : name ≠ "jobAuthorization") :
    Table.lookup name (before ++ ("jobAuthorization", x) :: after)
      = Table.lookup name (before ++ ("jobAuthorization", x') :: after) := by
  have hskip : compare name "jobAuthorization" ≠ .eq := by
    intro heq
    exact hne (Std.compare_eq_iff_eq.1 heq)
  rw [Table.lookup_append, Table.lookup_append, Table.lookup, Table.lookup, if_neg hskip,
    if_neg hskip]

/-- The authorization may be exchanged for another one that shows the same. -/
theorem GivenBy.exchange (hu : u.GivenBy (before ++ ("jobAuthorization", x) :: after))
    (honce : Json.NamesOnce memberNames (before ++ ("jobAuthorization", x) :: after))
    (h : x.Reordered Submission.memberNames x') :
    u.GivenBy (before ++ ("jobAuthorization", x') :: after) where
  state := lookup_exchange "state" (by decide) ▸ hu.state
  exportService := lookup_exchange "exportService" (by decide) ▸ hu.exportService
  importService := lookup_exchange "importService" (by decide) ▸ hu.importService
  dataType := lookup_exchange "transferDataType" (by decide) ▸ hu.dataType
  created := lookup_exchange "createdTimestamp" (by decide) ▸ hu.created
  lastUpdate := lookup_exchange "lastUpdateTimestamp" (by decide) ▸ hu.lastUpdate
  authorization := by
    obtain ⟨o, ho, hshown⟩ := hu.authorization
    cases (lookup_authorization honce).symm.trans ho
    exact ⟨x', lookup_authorization (namesOnce_exchange honce), hshown.of_reordered h⟩

end Exchange

/-- The seventh item of an array is the authorization. -/
theorem zip_memberNames {items : List Outline} (h : items.length = 6) (rest : List Outline) :
    memberNames.zip (items ++ rest)
      = (memberNames.take 6).zip items ++ ["jobAuthorization"].zip rest := by
  rw [← List.zip_append]
  · rfl
  · rw [h]
    rfl

theorem IsShownBy.of_rearranged {o o' : Outline} (h : Rearranged o o') (hu : u.IsShownBy o) :
    u.IsShownBy o' := by
  induction h with
  | job h =>
    apply ofOutline_layout_eq_ok_iff.1
    exact Layout.ofOutline_of_reordered isLawful_layout h (ofOutline_layout_eq_ok_iff.2 hu)
  | member h =>
    obtain ⟨ms, hgives, hu⟩ := hu
    obtain ⟨rfl, honce, hwhole⟩ := Outline.gives_named_iff.1 hgives
    have hknown : "jobAuthorization" ∈ memberNames := by decide
    refine ⟨_, .object (namesOnce_exchange honce) ?_, hu.exchange honce h⟩
    intro m hm hname
    rcases List.mem_append.1 hm with hm | hm
    · exact hwhole m (List.mem_append_left _ hm) hname
    · rcases List.mem_cons.1 hm with rfl | hm
      · exact absurd hknown hname
      · exact hwhole m (List.mem_append_right _ (List.mem_cons_of_mem _ hm)) hname
  | @item items x x' h hlength =>
    obtain ⟨ms, hgives, hu⟩ := hu
    obtain ⟨rfl, hle⟩ := Outline.gives_array_iff.1 hgives
    have honce : Json.NamesOnce memberNames (memberNames.zip (items ++ [x])) :=
      Layout.namesOnce_zip isLawful_layout.nodup_names _
    refine ⟨_, .array (by simpa using hle), ?_⟩
    rw [zip_memberNames hlength] at hu honce ⊢
    exact hu.exchange honce h
  | trans _ _ ih ih' => exact ih' (ih hu)

end Unordered

/-- Whether an outline repeats a known name, in a job or in its authorization. -/
inductive RepeatsKnown : Outline → Prop
  | job {o : Outline} (h : o.Repeats memberNames) : RepeatsKnown o
  | member {os : List (Outline × Outline)} {x : Outline} (h : x.Repeats Submission.memberNames)
      (mem : (.string (some "jobAuthorization"), x) ∈ os) : RepeatsKnown (.object os)
  | item {items rest : List Outline} {x : Outline} (h : x.Repeats Submission.memberNames)
      (length : items.length = 6) : RepeatsKnown (.array (items ++ x :: rest))

theorem RepeatsKnown.not_isShownBy {o : Outline} (h : RepeatsKnown o) (u : Unordered) :
    ¬u.IsShownBy o := by
  rintro ⟨ms, hgives, hu⟩
  obtain ⟨x', hx', hshown⟩ := hu.authorization
  cases h with
  | job h => exact h.not_gives ms hgives
  | @member os x h hmem =>
    cases hgives with
    | object honce =>
      obtain ⟨⟨name, x''⟩, hm, heq⟩ := List.mem_map.1 hmem
      cases heq
      cases ((honce.lookup_eq_some_iff (by decide)).2 hm).symm.trans hx'
      exact Authorization.not_isShownBy_of_repeats h hshown
  | @item items rest x h hlength =>
    obtain ⟨rfl, -⟩ := Outline.gives_array_iff.1 hgives
    have honce : Json.NamesOnce memberNames (memberNames.zip (items ++ x :: rest)) :=
      Layout.namesOnce_zip isLawful_layout.nodup_names _
    rw [Unordered.zip_memberNames hlength, List.zip_cons_cons] at hx' honce
    cases (Unordered.lookup_authorization honce).symm.trans hx'
    exact Authorization.not_isShownBy_of_repeats h hshown

theorem agrees_format : format.Agrees := by
  refine (Layout.agrees isLawful_layout ?_).refine _
  simp only [layout, List.forall_mem_cons, List.not_mem_nil, false_implies, implies_true, and_true]
  and_intros
  · exact Json.Field.agrees_of JobState.agrees_format _ _ _
  · exact Json.Field.agrees_of Format.agrees_text _ _ _
  · exact Json.Field.agrees_of Format.agrees_text _ _ _
  · exact Json.Field.agrees_of Format.agrees_text _ _ _
  · exact Json.Field.agrees_of Instant.agrees_format _ _ _
  · exact Json.Field.agrees_of Instant.agrees_format _ _ _
  · exact Json.Field.agrees_of Authorization.agrees_format _ _ _

/-- A value and its texts, compact or not, are decoded alike: all of them with the same result, or
none of them. -/
theorem decodes_alike (v : Json) (hv : v.hasDistinctNames = true) :
    Stage.format.DecodesAlike v ∧ JobState.format.DecodesAlike v ∧ Policy.format.DecodesAlike v ∧
      Submission.format.DecodesAlike v ∧ Authorization.format.DecodesAlike v ∧
      format.DecodesAlike v :=
  ⟨Stage.agrees_format.decodesAlike hv, JobState.agrees_format.decodesAlike hv,
    Policy.agrees_format.decodesAlike hv, Submission.agrees_format.decodesAlike hv,
    Authorization.agrees_format.decodesAlike hv, agrees_format.decodesAlike hv⟩

/-- A job with its members in another order than they are written in, and with further members. -/
def shuffled : Json :=
  .object [("jobAuthorization", .object [("note", .array [.object [("stage", .null)]]),
      ("encryptedPublicKey", .string ""), ("encryptedSessionKey", .string "k"),
      ("stage", .object [("CREDS_AVAILABLE", .null)])]),
    ("lastUpdateTimestamp", .string "2024-02-29T01:00:00.5+01:00"),
    ("createdTimestamp", .string "2024-02-29 00:00:00utc"), ("transferDataType", .string "PHOTOS"),
    ("importService", .string "target"), ("exportService", .string "source"),
    ("comment", .object [("state", .null)]), ("state", .string "NEW")]

theorem decodes_alike_shuffled : shuffled.hasDistinctNames = true ∧
    (format.ofValue shuffled).toOption.map (·.services) = some ⟨"source", "target", "PHOTOS"⟩ ∧
    Stage.format.DecodesAlike shuffled ∧ JobState.format.DecodesAlike shuffled ∧
      Policy.format.DecodesAlike shuffled ∧ Submission.format.DecodesAlike shuffled ∧
      Authorization.format.DecodesAlike shuffled ∧ format.DecodesAlike shuffled :=
  ⟨by decide, by decide +kernel, decodes_alike shuffled (by decide)⟩

theorem decode_eq_ok_iff {src : Source} {j : Job} :
    format.decode src = .ok j ↔ ∃ o, src.Shows o ∧ j.unordered.IsShownBy o := by
  rw [agrees_format.decode_eq_ok_iff]
  simp only [ofOutline_eq_ok_iff]

theorem exists_decode_iff {src : Source} : (∃ j, format.decode src = .ok j) ↔
    ∃ o, src.Shows o ∧ ∃ u : Unordered, u.IsShownBy o ∧ u.created ≤ u.lastUpdate := by
  simp only [decode_eq_ok_iff, ← exists_isShownBy_iff]
  constructor
  · rintro ⟨j, o, ho, hj⟩
    exact ⟨o, ho, j, hj⟩
  · rintro ⟨o, ho, j, hj⟩
    exact ⟨j, o, ho, hj⟩

/-- Decoding accepts exactly the values and the texts that show a job, and gives the job that they
show. It depends neither on the order of members nor on unknown members, of the job and of its
authorization, and it refuses what repeats a known name. -/
theorem decode_exact :
    (∀ src : Source, ((∃ j, format.decode src = .ok j) ↔
      ∃ o, src.Shows o ∧ ∃ u : Unordered, u.IsShownBy o ∧ u.created ≤ u.lastUpdate) ∧
      ∀ j, format.decode src = .ok j ↔ ∃ o, src.Shows o ∧ j.unordered.IsShownBy o) ∧
    (∀ (src src' : Source) (o o' : Outline), src.Shows o → src'.Shows o' → Rearranged o o' →
      ∀ j, format.decode src = .ok j ↔ format.decode src' = .ok j) ∧
    ∀ text : String, RepeatsKnown (Json.Reading.ofText text).root → ∀ j, ofText text ≠ .ok j := by
  refine ⟨fun src => ⟨exists_decode_iff, fun j => decode_eq_ok_iff⟩, ?_, ?_⟩
  · have hshown : ∀ {src src' : Source} {o o' : Outline}, src.Shows o → src'.Shows o' →
        Rearranged o o' → ∀ {j}, format.decode src = .ok j → format.decode src' = .ok j := by
      intro src src' o o' ho ho' h j hj
      obtain ⟨o₁, ho₁, hj⟩ := decode_eq_ok_iff.1 hj
      cases ho.unique ho₁
      exact decode_eq_ok_iff.2 ⟨o', ho', hj.of_rearranged h⟩
    intro src src' o o' ho ho' h j
    exact ⟨hshown ho ho' h, hshown ho' ho h.symm⟩
  · intro text h j hj
    obtain ⟨o, ho, hj⟩ := Format.readText_eq_ok_iff.1 hj
    rw [ho] at h
    exact h.not_isShownBy j.unordered (ofOutline_eq_ok_iff.1 hj)

-- The times name the same second with different offsets.
example : (ofText "[\"NEW\", \"a\", \"b\", \"c\", \"2024-01-01 0:0:0Z\",
    \"2024-01-01T01:30:00.5+01:30\", [\"INITIAL\"]]").toOption.map (·.lastUpdate.nano)
    = some 500000000 := by
  decide +kernel

end Job

end EscrowLedger
