import EscrowLedger.Job.Record

/-!
# What the record of a job holds

A record is written key by key, and no two keys have one text. So the record of a job has its
services, the name of its stage and a session key, which may be empty, and further the artifacts
that the job has; and it has nothing else.

## Main definitions

* `Record.Holds` — a record has the texts that a function gives to keys, and no others.
* `Job.textUnder` — the text that belongs under a key of the record of a job.

## Main statements

* `Record.Holds.set`, `Record.Holds.foldl_set` — what writing keys does.
* `Job.holds_toRecord` — the record of a job.
-/

namespace EscrowLedger

namespace Record

theorem Key.text_inj {k k' : Key} : k.text = k'.text ↔ k = k' := by
  refine ⟨fun h => ?_, congrArg Key.text⟩
  cases k with
  | exportService | importService | dataType | stage =>
    cases k' with
    | exportService | importService | dataType | stage => simp_all [Key.text]
    | artifact b => cases b <;> simp_all [Key.text]
  | artifact a =>
    cases k' with
    | exportService | importService | dataType | stage => cases a <;> simp_all [Key.text]
    | artifact b => cases a <;> cases b <;> simp_all [Key.text]

/-- Whether a record has exactly the texts that a function gives to keys. -/
def Holds (r : Record) (f : Key → Option String) : Prop :=
  ∀ name text, r.get? name = some text ↔ ∃ k : Key, k.text = name ∧ f k = some text

theorem holds_empty : Holds ∅ fun _ => none := by
  intro name text
  rw [Table.get?_empty]
  constructor
  · rintro ⟨⟩
  · rintro ⟨_, _, ⟨⟩⟩

theorem Holds.congr {r : Record} {f g : Key → Option String} (h : r.Holds f)
    (hfg : ∀ k, f k = g k) : r.Holds g :=
  funext hfg ▸ h

theorem Holds.value? {r : Record} {f : Key → Option String} (h : r.Holds f) (k : Key) :
    r.value? k = f k := by
  refine Option.ext fun text => ?_
  rw [Record.value?, h]
  constructor
  · rintro ⟨k', hk, hf⟩
    rwa [Key.text_inj.1 hk] at hf
  · exact fun hf => ⟨k, rfl, hf⟩

theorem Holds.set {r : Record} {f : Key → Option String} (h : r.Holds f) (k : Key)
    (text : String) : (r.set k text).Holds fun k' => if k' = k then some text else f k' := by
  intro name text'
  change _ ↔ ∃ k' : Key, k'.text = name ∧ (if k' = k then some text else f k') = some text'
  rw [Record.set, Table.get?_insert]
  by_cases hname : name = k.text
  · rw [if_pos hname]
    constructor
    · intro htext
      exact ⟨k, hname.symm, by rw [if_pos rfl, htext]⟩
    · rintro ⟨k', hk', hf⟩
      rwa [if_pos (Key.text_inj.1 (hk'.trans hname))] at hf
  · rw [if_neg hname, h]
    refine exists_congr fun k' => and_congr_right fun hk' => ?_
    rw [if_neg]
    rintro rfl
    exact hname hk'.symm

/-- A record is known by what it holds. -/
theorem Holds.eq {r r' : Record} {f : Key → Option String} (h : r.Holds f) (h' : r'.Holds f) :
    r = r' :=
  Table.ext_get? fun name => Option.ext fun text => (h name text).trans (h' name text).symm

/-- Keys are written where there is a text for them; where there is none, what was held before
stays. -/
theorem Holds.foldl_set {r : Record} {f : Key → Option String} (h : r.Holds f)
    (g : Key → Option String) (ks : List Key) :
    Holds (ks.foldl (fun r k => match g k with
      | some text => r.set k text
      | none => r) r)
      fun k => if k ∈ ks then (g k).or (f k) else f k := by
  induction ks generalizing r f with
  | nil => exact h
  | cons k' ks ih =>
    rw [List.foldl_cons]
    cases hg : g k' with
    | none =>
      refine (ih h).congr fun k => ?_
      by_cases hk : k = k'
      · rw [hk, hg, Option.none_or, ite_self, ite_self]
      · simp only [List.mem_cons, hk, false_or]
    | some text =>
      refine (ih (h.set k' text)).congr fun k => ?_
      by_cases hk : k = k'
      · rw [hk, hg, Option.some_or, Option.some_or, if_pos rfl, ite_self,
          if_pos List.mem_cons_self]
      · simp only [List.mem_cons, hk, false_or, if_false]

def artifactText (auth : Authorization) : Key → Option String
  | .artifact a => (auth.get a).map (·.text)
  | _ => none

/-- Artifacts are written where they are there; where they are not, what was held before stays. -/
theorem Holds.foldl_artifacts {r : Record} {f : Key → Option String} (h : r.Holds f)
    (auth : Authorization) (as : List Artifact) :
    Holds (as.foldl (fun r a => match auth.get a with
      | some content => r.set (.artifact a) content.text
      | none => r) r)
      fun k => if k ∈ as.map .artifact then (artifactText auth k).or (f k) else f k := by
  have hkeys := h.foldl_set (artifactText auth) (as.map .artifact)
  rw [List.foldl_map] at hkeys
  have hwrite : (fun (r : Record) (a : Artifact) => match artifactText auth (.artifact a) with
      | some text => r.set (.artifact a) text
      | none => r) = fun r a => match auth.get a with
      | some content => r.set (.artifact a) content.text
      | none => r := by
    funext r a
    rw [artifactText]
    cases auth.get a <;> rfl
  rwa [hwrite] at hkeys

end Record

namespace Job

/-- The text that belongs under a key of the record of a job, if there is one. -/
def textUnder (j : Job) : Record.Key → Option String
  | .exportService => some j.services.exportService
  | .importService => some j.services.importService
  | .dataType => some j.services.dataType
  | .stage => some j.stage.name
  | .artifact .sessionKey => some ((j.authorization.get .sessionKey).elim "" (·.text))
  | .artifact a => (j.authorization.get a).map (·.text)

theorem holds_toRecord (j : Job) : j.toRecord.Holds j.textUnder := by
  have hbase := (((((Record.holds_empty.set .dataType j.services.dataType).set .exportService
    j.services.exportService).set .importService j.services.importService).set .stage
    j.stage.name).set (.artifact .sessionKey)
    ((j.authorization.get .sessionKey).elim "" (·.text))).foldl_artifacts j.authorization
    Artifact.optional
  refine hbase.congr fun k => ?_
  cases k with
  | exportService | importService | dataType | stage => rfl
  | artifact a => cases a <;> simp [textUnder, Record.artifactText, Artifact.optional]

end Job

end EscrowLedger
