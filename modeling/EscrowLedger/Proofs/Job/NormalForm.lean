import EscrowLedger.Proofs.Escrow.NormalForm
import EscrowLedger.Proofs.Job.Defects

/-!
# Normal forms of records

A record that was written by others may have keys that are not known, and empty texts where others
have none. When the job that is read from it is written again, the record that results is the normal
form of the first one. It keeps the texts under the known keys as they were, but for two things: an
artifact that is empty loses its key, and the session key of a new job, which may be blank, becomes
empty.

The normal form is told from the record alone. It holds the same job as the record, and it is its own
normal form, so a record changes at most once by being read and written.

## Main definitions

* `Record.IsOfNew` — a record is that of a new job.
* `Record.normal`, `Record.normalText` — the normal form, and what it has under a key.

## Main statements

* `Job.toRecord_of_ofRecord` — a job that was read has the normal form of its record as its record.
* `Job.toRecord_eq_normal` — the normal form, and what is read from it.
-/

namespace EscrowLedger

namespace Record

/-- All known keys. -/
def Key.all : List Key :=
  [.exportService, .importService, .dataType, .stage] ++ Artifact.all.map .artifact

theorem Key.mem_all (k : Key) : k ∈ all := by
  cases k with
  | exportService | importService | dataType | stage => simp [all]
  | artifact a => exact List.mem_append_right _ (List.mem_map_of_mem (Artifact.mem_all a))

/-- The record that has given texts under the known keys. -/
def ofTexts (f : Key → Option String) : Record :=
  Key.all.foldl (fun r k => match f k with
    | some text => r.set k text
    | none => r) ∅

theorem holds_ofTexts (f : Key → Option String) : (ofTexts f).Holds f := by
  refine (holds_empty.foldl_set f Key.all).congr fun k => ?_
  rw [if_pos (Key.mem_all k), Option.or_none]

/-- Whether a record is that of a job for which nobody has chosen a session key yet. -/
def IsOfNew (r : Record) : Prop :=
  r.value? .stage = some Stage.initial.name ∧ (r.submission .initial).DescribesNew

instance (r : Record) : Decidable r.IsOfNew := inferInstanceAs (Decidable (_ ∧ _))

/-- What the normal form of a record has under a key. Texts stay as they are, but the session key of
a new job becomes empty, and other artifacts that are empty are left out. -/
def normalText (r : Record) : Key → Option String
  | .artifact .sessionKey =>
    if r.IsOfNew then (r.value? (.artifact .sessionKey)).map fun _ => ""
    else r.value? (.artifact .sessionKey)
  | .artifact a => (r.value? (.artifact a)).filter (· ≠ "")
  | k => r.value? k

/-- The normal form of a record, without the keys that are not known. -/
def normal (r : Record) : Record := ofTexts r.normalText

theorem normalText_of_ne (r : Record) {a : Artifact} (ha : a ≠ .sessionKey) :
    r.normalText (.artifact a) = (r.value? (.artifact a)).filter (· ≠ "") := by
  cases a with
  | sessionKey => exact absurd rfl ha
  | exportAuthData | importAuthData | publicKey | privateKey => rfl

end Record

namespace Authorization

/-- Every artifact but the session key is there if it was given and is not empty. -/
theorem map_text_get_of_ne {s : Submission} {auth : Authorization} (h : ofSubmission s = .ok auth)
    {a : Artifact} (ha : a ≠ .sessionKey) :
    (auth.get a).map (·.text) = (s.get a).filter (· ≠ "") := by
  cases ofSubmission_eq_ok_iff.1 h with
  | new hnew hunkeyed =>
    rw [hunkeyed, get_unkeyed]
    rcases hnew.others a ha with hget | hget
    · rw [hget]
      rfl
    · rw [hget]
      rfl
  | checked _ _ htexts => exact htexts a

end Authorization

namespace Job

variable {r : Record} {now : Instant} {j : Job}

theorem textUnder_of_ne (j : Job) {a : Artifact} (ha : a ≠ .sessionKey) :
    j.textUnder (.artifact a) = (j.authorization.get a).map (·.text) := by
  cases a with
  | sessionKey => exact absurd rfl ha
  | exportAuthData | importAuthData | publicKey | privateKey => rfl

/-- The session key in the record of a job is the one that was given, or empty if what was given
describes a new job. -/
theorem textUnder_sessionKey {s : Submission} {key : String} (hkey : s.get .sessionKey = some key)
    (h : Authorization.ofSubmission s = .ok j.authorization) :
    j.textUnder (.artifact .sessionKey) = some (if s.DescribesNew then "" else key) := by
  rw [textUnder]
  split
  · next hnew =>
    rw [← Except.ok.inj ((Authorization.ofSubmission_of_describesNew hnew).symm.trans h)]
    rfl
  · next hnew =>
    have hrule : s.stage.rule .sessionKey = .required := by cases s.stage <;> rfl
    obtain ⟨text, hget, htext⟩ := Authorization.exists_text_of_required h hnew hrule
    obtain ⟨content, hcontent, rfl⟩ := Option.map_eq_some_iff.1 htext
    rw [hcontent, Option.elim_some, ← hget, hkey]

theorem isOfNew_iff {stage : Stage} (h : r.value? .stage = some stage.name) :
    r.IsOfNew ↔ (r.submission stage).DescribesNew := by
  rw [Record.IsOfNew, h]
  constructor
  · rintro ⟨hname, hnew⟩
    rwa [Stage.name_inj (Option.some.inj hname)]
  · intro hnew
    have hstage : stage = .initial := hnew.stage
    exact ⟨by rw [hstage], hstage ▸ hnew⟩

/-- A job that was read has the texts of the normal form in its record. -/
theorem textUnder_eq_normalText (h : ofRecord r now = .ok j) (k : Record.Key) :
    j.textUnder k = r.normalText k := by
  obtain ⟨services, stage, key, auth, hexport, himport, hdata, hname, hkey, hauth, rfl⟩ :=
    ofRecord_eq_ok_iff.1 h
  rw [Record.submissionOfRecord_eq hkey] at hauth
  cases k with
  | exportService => exact hexport.symm
  | importService => exact himport.symm
  | dataType => exact hdata.symm
  | stage =>
    have hstage := Authorization.stage_of_ofSubmission hauth
    rw [Record.stage_submission] at hstage
    change some auth.stage.name = r.value? .stage
    rw [hstage, hname]
  | artifact a =>
    by_cases ha : a = .sessionKey
    · subst ha
      have hget : (r.submission stage).get .sessionKey = some key := by
        rw [Record.get_submission, hkey]
      rw [textUnder_sessionKey hget hauth, Record.normalText, hkey, Option.map_some]
      simp only [isOfNew_iff hname]
      split <;> rfl
    · rw [textUnder_of_ne _ ha, Record.normalText_of_ne r ha]
      change (auth.get a).map (·.text) = _
      rw [Authorization.map_text_get_of_ne hauth ha, Record.get_submission]

theorem toRecord_of_ofRecord (h : ofRecord r now = .ok j) : j.toRecord = r.normal :=
  (j.holds_toRecord.congr (textUnder_eq_normalText h)).eq (Record.holds_ofTexts r.normalText)

theorem ofRecord_normal (h : ofRecord r now = .ok j) : ofRecord r.normal now = .ok j := by
  rw [← toRecord_of_ofRecord h, ofRecord_toRecord]
  obtain ⟨services, stage, key, auth, -, -, -, -, -, -, rfl⟩ := ofRecord_eq_ok_iff.1 h
  rfl

/-- A record that can be read is the one of a job as soon as it has been read and written once. The
record of the job is the normal form, which has the texts of the old record under the known keys and
nothing else, except that the session key of a new job is empty and that other artifacts are left out
if they are empty. The same job is read from it at the same time, and it is its own normal form. -/
theorem toRecord_eq_normal (h : ofRecord r now = .ok j) :
    j.toRecord = r.normal ∧ r.normal.Holds r.normalText ∧ ofRecord r.normal now = .ok j ∧
      r.normal.normal = r.normal := by
  refine ⟨toRecord_of_ofRecord h, Record.holds_ofTexts _, ofRecord_normal h, ?_⟩
  rw [← toRecord_of_ofRecord (ofRecord_normal h), toRecord_of_ofRecord h]

/-- The record of a new job with a blank session key, an empty artifact and a key that is not known. -/
def strayRecord : Record :=
  ((((((∅ : Record).set .exportService "A").set .importService "B").set .dataType "C").set .stage
    "INITIAL").set (.artifact .sessionKey) " ").set (.artifact .publicKey) "" |>.insert "STATE" "NEW"

theorem toRecord_eq_normal_stray :
    ofRecord strayRecord default = .ok (create ⟨"A", "B", "C"⟩ default) ∧
      (create ⟨"A", "B", "C"⟩ default).toRecord = strayRecord.normal ∧
      strayRecord.normal.Holds strayRecord.normalText ∧
      ofRecord strayRecord.normal default = .ok (create ⟨"A", "B", "C"⟩ default) ∧
      strayRecord.normal.normal = strayRecord.normal :=
  ⟨rfl, toRecord_eq_normal rfl⟩

end Job

end EscrowLedger
