import EscrowLedger.Proofs.Job.Look
import EscrowLedger.Proofs.Ledger.Custody
import EscrowLedger.Proofs.Ledger.Replacement
import Mathlib.Data.List.Forall2

/-!
# What a ledger tells of secrets

A client reads a job from a ledger, makes a submission to it, and saves what has become of it; then it
does so again. Whoever learns how every turn ends, for what reason, and which names the record has
after it, learns of the artifacts no more than what they look like. This holds as long as nobody else
writes and each submission is made to the job as it is. It does not hold of a client that saves with
an old record for a token, since a record that was replaced by an equal one counts as unchanged.

## Main definitions

* `Turn.LooksLike`, `Turn.IsAlone` — turns that differ in artifacts at most, and in which nobody else
  writes.
* `Turn.trace` — the endings of turns, and the names of the record after each.
* `Record.Mirrors`, `MemoryLedger.Mirrors`, `FileLedger.Mirrors` — records that look alike under the
  same names, and ledgers with such records.
* `Ledger.Mirroring` — a relation of ledgers that show records alike and stay related.

## Main statements

* `Ledger.Mirroring.fetch`, `Ledger.Mirroring.trace_eq` — one turn, and all turns.
* `MemoryLedger.mirroring`, `FileLedger.mirroring` — ledgers in memory and on disk.
* `Ledger.verdicts_rest_on_look` — everything that is said of artifacts.
-/

namespace EscrowLedger

open Ledger (Request)

-- ════════════════════════════════════════════════════════════════════════
-- Records and turns
-- ════════════════════════════════════════════════════════════════════════

/-- Whether two records look alike and have the same names. -/
structure Record.Mirrors (r r' : Record) : Prop where
  look : r.LooksLike r'
  names : r.names = r'.names

theorem Record.Mirrors.refl (r : Record) : r.Mirrors r := ⟨.refl r, rfl⟩

theorem Record.mirrors_refl : ∀ found : Option Record, Option.Rel Record.Mirrors found found
  | none => .none
  | some r => .some (.refl r)

theorem Job.LooksLike.mirrors {j j' : Job} (h : j.LooksLike j')
    (hservices : j.services = j'.services) : j.toRecord.Mirrors j'.toRecord :=
  ⟨h.toRecord hservices, h.names⟩

namespace Turn

/-- Whether two turns submit what looks alike under one policy. -/
structure LooksLike (t t' : Turn) : Prop where
  submission : t.submission.LooksLike t'.submission
  policy : t.policy = t'.policy

/-- Whether nobody else writes to the ledger. -/
def IsAlone (t : Turn) : Prop := ∀ r ∈ t.earlier ++ t.between, r.write? = none

/-- What others ask without writing makes no difference to a turn. -/
theorem IsAlone.fetch_eq {σ : Type} [Ledger σ] {t : Turn} (h : t.IsAlone) (id : JobId) (l : σ) :
    t.fetch id l = Turn.fetch id { t with earlier := [], between := [] } l := by
  have hearlier := Ledger.run_of_no_write l fun r hr => h r (List.mem_append_left _ hr)
  have hbetween := Ledger.run_of_no_write l fun r hr => h r (List.mem_append_right _ hr)
  simp only [fetch, hearlier, hbetween, Ledger.run_nil]

/-- The endings of turns of a client that reads a job and saves it, and the names of its record after
each of them. -/
def trace {σ : Type} [Ledger σ] (id : JobId) (l : σ) :
    List Turn → List (Ending × Except LedgerError (Option (List String)))
  | [] => []
  | t :: ts => ((t.fetch id l).1, (Ledger.get (t.fetch id l).2 id).map (·.map Record.names))
      :: trace id (t.fetch id l).2 ts

end Turn

-- ════════════════════════════════════════════════════════════════════════
-- Ledgers that mirror each other
-- ════════════════════════════════════════════════════════════════════════

namespace Ledger

variable {σ : Type} [Ledger σ] {id : JobId}

/-- Whether related ledgers have records under an id that look alike, and stay related when jobs that
look alike are saved. -/
structure Mirroring (R : σ → σ → Prop) (id : JobId) : Prop where
  get : ∀ {l l'}, R l l' → Except.Alike (Option.Rel Record.Mirrors) (get l id) (get l' id)
  save : ∀ {l l' read read'}, R l l' → Ledger.get l id = .ok (some read) →
    Ledger.get l' id = .ok (some read') → ∀ {j j'}, j.toRecord.Mirrors j'.toRecord →
    (save l id read j).1 = (save l' id read' j').1 ∧ R (save l id read j).2 (save l' id read' j').2

namespace Mirroring

variable {R : σ → σ → Prop} {l l' : σ} {t t' : Turn} {ts ts' : List Turn}

/-- Snapshots of related ledgers show jobs that look alike. -/
theorem snapshot (hR : Mirroring R id) (h : R l l') (now now' : Instant) :
    Except.Alike (fun shown shown' => shown.job.LooksLike shown'.job ∧
      shown.job.services = shown'.job.services ∧ Ledger.get l id = .ok (some shown.record) ∧
      Ledger.get l' id = .ok (some shown'.record)) (snapshot l id now) (snapshot l' id now') := by
  have hget := hR.get h
  rw [snapshot_eq, snapshot_eq]
  generalize Ledger.get l id = found at hget ⊢
  generalize Ledger.get l' id = found' at hget ⊢
  cases hget with
  | error e => exact .error e
  | ok hrel =>
    cases hrel with
    | none => exact .error _
    | @some r r' hmirrors =>
      have hread := hmirrors.look.ofRecord now now'
      simp only
      generalize Job.ofRecord r now = read at hread ⊢
      generalize Job.ofRecord r' now' = read' at hread ⊢
      cases hread with
      | error e => exact .error _
      | ok hjobs => exact .ok ⟨hjobs.1, hjobs.2, rfl, rfl⟩

/-- Turns that look alike end alike on related ledgers, and leave them related. -/
theorem fetch (hR : Mirroring R id) (h : R l l') (ht : t.LooksLike t') (halone : t.IsAlone)
    (halone' : t'.IsAlone) :
    (t.fetch id l).1 = (t'.fetch id l').1 ∧ R (t.fetch id l).2 (t'.fetch id l').2 := by
  have hshown := hR.snapshot h t.readAt t'.readAt
  rw [halone.fetch_eq, halone'.fetch_eq, Turn.fetch, Turn.fetch]
  simp only [run_nil]
  generalize Ledger.snapshot l id t.readAt = shown at hshown ⊢
  generalize Ledger.snapshot l' id t'.readAt = shown' at hshown ⊢
  cases hshown with
  | error e => exact ⟨rfl, h⟩
  | @ok shown shown' hjobs =>
    obtain ⟨hlook, hservices, hread, hread'⟩ := hjobs
    have hnext := ht.submission.advance hlook.authorization.stage hlook.state t'.policy t.changedAt
      t'.changedAt
    simp only [ht.policy]
    generalize shown.job.advance t.submission t'.policy t.changedAt = next at hnext ⊢
    generalize shown'.job.advance t'.submission t'.policy t'.changedAt = next' at hnext ⊢
    cases hnext with
    | error e => exact ⟨rfl, h⟩
    | @ok next next' hnexts =>
      obtain ⟨hlook', hkept, hkept'⟩ := hnexts
      have hmirrors := hlook'.mirrors (hkept.trans (hservices.trans hkept'.symm))
      obtain ⟨hsaved, hafter⟩ := hR.save h hread hread' hmirrors
      exact ⟨congrArg Turn.ofSaved hsaved, hafter⟩

theorem names_eq (hR : Mirroring R id) (h : R l l') :
    (Ledger.get l id).map (·.map Record.names) = (Ledger.get l' id).map (·.map Record.names) := by
  refine ((hR.get h).map fun found found' hrel => ?_).eq
  cases hrel with
  | none => rfl
  | some hmirrors => exact congrArg some hmirrors.names

theorem trace_eq (hR : Mirroring R id) (h : R l l') (hts : List.Forall₂ Turn.LooksLike ts ts')
    (halone : ∀ t ∈ ts, t.IsAlone) (halone' : ∀ t ∈ ts', t.IsAlone) :
    Turn.trace id l ts = Turn.trace id l' ts' := by
  induction hts generalizing l l' with
  | nil => rfl
  | @cons t t' ts ts' ht _ ih =>
    obtain ⟨hending, hafter⟩ :=
      hR.fetch h ht (halone t List.mem_cons_self) (halone' t' List.mem_cons_self)
    rw [Turn.trace, Turn.trace, hending, hR.names_eq hafter]
    congr 1
    exact ih hafter (fun t ht => halone t (List.mem_cons_of_mem _ ht))
      fun t ht => halone' t (List.mem_cons_of_mem _ ht)

end Mirroring

end Ledger

-- ════════════════════════════════════════════════════════════════════════
-- Ledgers in memory and on disk
-- ════════════════════════════════════════════════════════════════════════

namespace MemoryLedger

/-- Whether two ledgers have records under an id that look alike, or none. -/
def Mirrors (m m' : MemoryLedger) (id : JobId) : Prop :=
  Option.Rel Record.Mirrors (m.records.get? id) (m'.records.get? id)

theorem Mirrors.refl (m : MemoryLedger) (id : JobId) : m.Mirrors m id := Record.mirrors_refl _

theorem mirroring (id : JobId) :
    Ledger.Mirroring (fun m m' : MemoryLedger => m.Mirrors m' id) id where
  get h := .ok h
  save := by
    intro m m' read read' _ hget hget' j j' hmirrors
    have hsave : ∀ {m : MemoryLedger} {read j}, m.records.get? id = some read →
        Ledger.save m id read j = (.ok (), ⟨m.records.insert id j.toRecord⟩) := by
      intro m read j hfound
      obtain ⟨reason, -, heq⟩ := exists_replace_eq m id read j.toRecord
      rw [Ledger.save, heq, if_pos hfound]
    rw [hsave (Except.ok.inj hget), hsave (Except.ok.inj hget')]
    refine ⟨rfl, ?_⟩
    rw [Mirrors, Table.get?_insert_self, Table.get?_insert_self]
    exact .some hmirrors

end MemoryLedger

namespace FileLedger

/-- Whether two ledgers at one path have disks that differ in what files hold at most, and both have
records under an id that look alike, or none, or documents that cannot be read for one reason. -/
structure Mirrors (l l' : FileLedger) (id : JobId) : Prop where
  path : l.path = l'.path
  shape : l.disk.SameShape l'.disk
  short : l.disk.HasShortNames
  short' : l'.disk.HasShortNames
  document : Except.Alike (fun d d' => Option.Rel Record.Mirrors (d.get? id.toText)
    (d'.get? id.toText)) l.document l'.document

variable {l l' : FileLedger} {id : JobId}

theorem Mirrors.refl (h : l.disk.HasShortNames) (id : JobId) : l.Mirrors l id where
  path := rfl
  shape := .refl l.disk
  short := h
  short' := h
  document := by
    refine (Except.Alike.refl l.document).mono ?_
    rintro d _ rfl
    exact Record.mirrors_refl (d.get? id.toText)

/-- Attempts to replace documents leave ledgers that look alike if the new documents do. -/
theorem Mirrors.store (h : l.Mirrors l' id) {d₀ d₀' : Document} (hd : l.document = .ok d₀)
    (hd' : l'.document = .ok d₀') {d d' : Document}
    (hfound : Option.Rel Record.Mirrors (d.get? id.toText) (d'.get? id.toText)) :
    (l.store d).1 = (l'.store d').1 ∧ (l.store d).2.Mirrors (l'.store d').2 id := by
  obtain ⟨houtcome, hshape⟩ := sameShape_store h.path h.shape d d'
  refine ⟨houtcome, ?_⟩
  constructor
  case path => rw [path_store, path_store, h.path]
  case shape => exact hshape
  case short => exact hasShortNames_store h.short d
  case short' => exact hasShortNames_store h.short' d'
  case document =>
    cases hstore : (l.store d).1 with
    | error e =>
      rw [(spared_store h.short hd hstore).document_eq,
        (spared_store h.short' hd' (houtcome.symm.trans hstore)).document_eq]
      exact h.document
    | ok _ =>
      rw [document_of_store hstore, document_of_store (houtcome.symm.trans hstore)]
      exact .ok hfound

theorem mirroring (id : JobId) :
    Ledger.Mirroring (fun l l' : FileLedger => l.Mirrors l' id) id where
  get h := h.document.map fun _ _ hfound => hfound
  save := by
    intro l l' read read' h hget hget' j j' hmirrors
    obtain ⟨d, hd, hfound⟩ := Except.map_eq_ok_iff.1 hget
    obtain ⟨d', hd', hfound'⟩ := Except.map_eq_ok_iff.1 hget'
    rw [save_of_document hd hfound, save_of_document hd' hfound']
    refine h.store hd hd' ?_
    rw [Table.get?_insert_self, Table.get?_insert_self]
    exact .some hmirrors

end FileLedger

-- ════════════════════════════════════════════════════════════════════════
-- All that is said
-- ════════════════════════════════════════════════════════════════════════

namespace Ledger

/-- What is said of submissions, drafts, jobs and records rests on what their artifacts look like:
whether they are accepted, for what reason not, and if so with which stage, which artifacts present
and which names in the record. The same holds of all that a ledger in memory or on disk says to a
client that reads its job, makes a submission and saves what has become of it, again and again. -/
theorem verdicts_rest_on_look :
    (∀ s s' : Submission, s.LooksLike s' → Except.Alike Authorization.LooksLike
      (Authorization.ofSubmission s) (Authorization.ofSubmission s')) ∧
    (∀ s s' : Submission, s.LooksLike s' → ∀ d d' : Draft, d.policy = d'.policy →
      d.job.stage = d'.job.stage → d.job.state = d'.job.state →
      Except.Alike Draft.LooksLike (d.submit s) (d'.submit s')) ∧
    (∀ s s' : Submission, s.LooksLike s' → ∀ j j' : Job, j.stage = j'.stage → j.state = j'.state →
      ∀ (policy : Policy) (now now' : Instant),
        Except.Alike Job.LooksLike (j.advance s policy now) (j'.advance s' policy now')) ∧
    (∀ r r' : Record, r.LooksLike r' → ∀ now now' : Instant,
      Except.Alike Job.LooksLike (Job.ofRecord r now) (Job.ofRecord r' now')) ∧
    ∀ ts ts' : List Turn, List.Forall₂ Turn.LooksLike ts ts' → (∀ t ∈ ts, t.IsAlone) →
      (∀ t ∈ ts', t.IsAlone) → ∀ id : JobId,
      (∀ m m' : MemoryLedger, m.Mirrors m' id → Turn.trace id m ts = Turn.trace id m' ts') ∧
      ∀ l l' : FileLedger, l.Mirrors l' id → Turn.trace id l ts = Turn.trace id l' ts' := by
  refine ⟨fun s s' h => h.ofSubmission, fun s s' h d d' => h.submit,
    fun s s' h j j' hstage hstate policy now now' => ?_, fun r r' h now now' => ?_,
    fun ts ts' hts halone halone' id => ⟨fun m m' h => ?_, fun l l' h => ?_⟩⟩
  · exact (h.advance hstage hstate policy now now').mono fun _ _ hnext => hnext.1
  · exact (h.ofRecord now now').mono fun _ _ hjobs => hjobs.1
  · exact (MemoryLedger.mirroring id).trace_eq h hts halone halone'
  · exact (FileLedger.mirroring id).trace_eq h hts halone halone'

/-- A job is given a key, and then a blank one. -/
def keyTurns (key : Sealed) (blank : String) : List Turn :=
  [⟨(Authorization.initial (some key)).toSubmission, .forwardOnly, default, default, default,
      [.get default], []⟩,
    ⟨(Submission.empty .initial).set .sessionKey blank, .lenient, default, default, default, [],
      [.get default]⟩]

/-- A ledger on disk in which a new job was entered. -/
def newLedger : FileLedger :=
  (create (FileLedger.mk ⟨["jobs.json"]⟩ Disk.draftDisk) default default).2

/-- The names of the record of a new job. -/
def newNames : List String :=
  ["AUTHORIZATION_STATE", "DATA_TYPE", "ENCRYPTED_SESSION_KEY", "EXPORT_SERVICE", "IMPORT_SERVICE"]

/-- Keys that differ, and blank keys that differ, are not told apart. -/
theorem verdicts_rest_on_look_keyTurns :
    (Authorization.initial (some Job.firstKey)).toSubmission.LooksLike
      (Authorization.initial (some Job.secondKey)).toSubmission ∧
    (Job.keyed Job.firstKey).toRecord.LooksLike (Job.keyed Job.secondKey).toRecord ∧
    List.Forall₂ Turn.LooksLike (keyTurns Job.firstKey " ") (keyTurns Job.secondKey "\t") ∧
    Except.Alike Job.LooksLike ((default : Job).advance
      (Authorization.initial (some Job.firstKey)).toSubmission .lenient default)
      ((default : Job).advance (Authorization.initial (some Job.secondKey)).toSubmission .lenient
        default) ∧
    Except.Alike Job.LooksLike (Job.ofRecord (Job.keyed Job.firstKey).toRecord default)
      (Job.ofRecord (Job.keyed Job.secondKey).toRecord default) ∧
    Turn.trace default (create MemoryLedger.empty default default).2 (keyTurns Job.secondKey "\t")
      = [(.granted, .ok (some newNames)),
        (.rejected (.invalidAuthorization ⟨.initial, .sessionKey, .required⟩),
          .ok (some newNames))] ∧
    get newLedger default = .ok (some (default : Job).toRecord) ∧
    Turn.trace default newLedger (keyTurns Job.firstKey " ")
      = Turn.trace default newLedger (keyTurns Job.secondKey "\t") := by
  have hkeys : (Authorization.initial (some Job.firstKey)).toSubmission.LooksLike
      (Authorization.initial (some Job.secondKey)).toSubmission :=
    ⟨rfl, fun a => by cases a <;> decide⟩
  have hblank : ((Submission.empty .initial).set .sessionKey " ").LooksLike
      ((Submission.empty .initial).set .sessionKey "\t") :=
    ⟨rfl, fun a => by cases a <;> decide⟩
  have hturns : List.Forall₂ Turn.LooksLike (keyTurns Job.firstKey " ")
      (keyTurns Job.secondKey "\t") := .cons ⟨hkeys, rfl⟩ (.cons ⟨hblank, rfl⟩ .nil)
  have halone : ∀ key blank, ∀ t ∈ keyTurns key blank, t.IsAlone := by
    simp [keyTurns, Turn.IsAlone, Request.write?]
  have hjobs : (Job.keyed Job.firstKey).LooksLike (Job.keyed Job.secondKey) :=
    Job.looksLike_of_authorization rfl ⟨rfl, fun a => by cases a <;> rfl⟩
  have hrecords := hjobs.toRecord rfl
  have hdoc := Disk.shows_iff.1 Disk.shows_draft
  have hcreated := FileLedger.isUnhindered_perform hdoc Disk.isUnhindered_draft
    (.create default default)
  have hdraft : (FileLedger.mk ⟨["jobs.json"]⟩ Disk.draftDisk).disk.HasShortNames :=
    Disk.hasShortNames_empty.insert rfl _
  have hshort : newLedger.disk.HasShortNames :=
    FileLedger.hasShortNames_perform hdraft (.create default default)
  obtain ⟨-, -, hshows⟩ := create_of_get_file (FileLedger.get_of_document hdoc default) default
    hcreated.1
  obtain ⟨-, -, hadvance, hread, htrace⟩ := verdicts_rest_on_look
  obtain ⟨hmemory, hfile⟩ := htrace _ _ hturns (halone _ _) (halone _ _) default
  refine ⟨hkeys, hrecords, hturns, hadvance _ _ hkeys _ _ rfl rfl _ _ _,
    hread _ _ hrecords _ _, ?_, hshows, ?_⟩
  · rw [← hmemory _ _ (.refl _ default)]
    decide +kernel
  · exact hfile _ _ (.refl hshort default)

end Ledger

end EscrowLedger
