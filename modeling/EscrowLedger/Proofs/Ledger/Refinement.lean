import EscrowLedger.Proofs.Ledger.Document
import EscrowLedger.Proofs.Ledger.Host
import EscrowLedger.Proofs.Ledger.InMemory

/-!
# Ledgers on disk behave like ledgers in memory

A ledger on disk reads its whole document for every step and rewrites it for every write. As long as
the calls of the file system do not fail, nobody who uses it can tell it from a ledger in memory that
starts with the records which the document has under ids. Records under other keys stay as they are.

A program that has opened a ledger on disk knows its path and nothing else. So any number of ledgers
may be open at one path: every step of any of them is a step on the disk that they share.

## Main definitions

* `Disk.Shows` — the document that a file shows: of a missing or blank file the empty one.
* `FileLedger.Represents` — the ledger in memory that a ledger on disk behaves like.
* `FileLedger.IsUnhindered` — no call of the file system can fail.
* `Disk.run` — steps of ledgers that were opened at one path.

## Main statements

* `FileLedger.document_store` — a document that was written without failure is read back.
* `FileLedger.simulates_represents` — one step.
* `FileLedger.undisturbed_run` — when no call of the file system fails.
* `Disk.run_eq_run_jobs` — whole runs.
-/

namespace EscrowLedger

open Ledger (Request Reply Undisturbed)

-- ════════════════════════════════════════════════════════════════════════
-- What a file shows
-- ════════════════════════════════════════════════════════════════════════

/-- The document that the file at the end of a path shows. -/
inductive Disk.Shows (d : Disk) (p : Path) : Document → Prop where
  | missing (h : d.contains p = false) : Shows d p ∅
  /-- A file that holds white space only. -/
  | blank {text : String} (hc : d.contains p = true) (h : d.readText p = .ok text)
      (hb : Text.isBlank text = true) : Shows d p ∅
  | decoded {text : String} {doc : Document} (hc : d.contains p = true)
      (h : d.readText p = .ok text) (hb : Text.isBlank text = false)
      (hd : Document.format.readText text = .ok doc) : Shows d p doc

theorem FileLedger.document_of_readText {d : Disk} {p : Path} {text : String}
    (hc : d.contains p = true) (h : d.readText p = .ok text) {doc : Document} :
    (FileLedger.mk p d).document = .ok doc ↔ Document.ofText text = .ok doc := by
  have hdoc : (FileLedger.mk p d).document
      = (Document.ofText text).mapError LedgerError.document := by
    rw [document_eq, if_pos hc]
    simp only [h]
    rfl
  rw [hdoc]
  cases Document.ofText text with
  | error e =>
    constructor
    · rintro ⟨⟩
    · rintro ⟨⟩
  | ok doc' =>
    constructor
    · intro hdoc'
      rw [Except.ok.inj hdoc']
    · intro hdoc'
      rw [Except.ok.inj hdoc']
      rfl

/-- A ledger on disk starts with the document that its file shows. -/
theorem Disk.shows_iff {d : Disk} {p : Path} {doc : Document} :
    d.Shows p doc ↔ (FileLedger.mk p d).document = .ok doc := by
  constructor
  · rintro (h | ⟨hc, h, hb⟩ | ⟨hc, h, hb, hd⟩)
    · rw [FileLedger.document_eq, if_neg]
      rw [h]
      exact Bool.false_ne_true
    · rw [FileLedger.document_of_readText hc h, Document.ofText, if_pos hb]
    · rw [FileLedger.document_of_readText hc h, Document.ofText, hb,
        if_neg Bool.false_ne_true, hd]
  · intro h
    cases hc : d.contains p with
    | false =>
      rw [FileLedger.document_eq, if_neg (by rw [hc]; exact Bool.false_ne_true)] at h
      obtain rfl : ∅ = doc := Except.ok.inj h
      exact .missing hc
    | true =>
      cases hread : d.readText p with
      | error e =>
        rw [FileLedger.document_eq, if_pos hc] at h
        simp only [hread] at h
        cases h
      | ok text =>
        rw [FileLedger.document_of_readText hc hread, Document.ofText] at h
        cases hb : Text.isBlank text with
        | true =>
          rw [if_pos hb] at h
          obtain rfl : ∅ = doc := Except.ok.inj h
          exact .blank hc hread hb
        | false =>
          rw [hb, if_neg Bool.false_ne_true] at h
          exact .decoded hc hread hb h

theorem Disk.shows_of_node? {d : Disk} {p : Path} {place : Location} {doc : Document}
    (hl : d.locate p = .ok place) (hp : p.isDirectory = false)
    (hn : d.node? place = some (.file doc.toText.toUTF8)) : d.Shows p doc := by
  have hc := Disk.contains_of_node? hl hp hn
  have hread := Disk.readText_of_node? hl hp hn
  rw [Disk.shows_iff, FileLedger.document_of_readText hc hread, Document.ofText_toText]

namespace FileLedger

-- ════════════════════════════════════════════════════════════════════════
-- Replacing the document
-- ════════════════════════════════════════════════════════════════════════

@[simp] theorem path_store (l : FileLedger) (d : Document) : (l.store d).2.path = l.path :=
  path_storeOn .calm l d

/-- Replacing the document fails only where a call of the file system does, and otherwise leaves the
new document at the path and all directories as they were. -/
theorem document_store (l : FileLedger) (d : Document) :
    (∃ e, (l.store d).1 = .error (.disk e)) ∨
      ((l.store d).1 = .ok () ∧ (l.store d).2.document = .ok d ∧
        l.disk.SameDirectories (l.store d).2.disk) := by
  rw [store_eq]
  split
  · next e _ => exact Or.inl ⟨e, rfl⟩
  · next written hwrite =>
    split
    · next e _ => exact Or.inl ⟨e, rfl⟩
    · next renamed hrename =>
      obtain ⟨place, hlocate, hdir, hnode, hsame⟩ := Disk.rename_write hwrite hrename
      exact Or.inr ⟨rfl, Disk.shows_iff.1 (Disk.shows_of_node? hlocate hdir hnode), hsame⟩

/-- A document that could be written is read back. -/
theorem document_of_store {l : FileLedger} {d : Document} (h : (l.store d).1 = .ok ()) :
    (l.store d).2.document = .ok d := by
  rcases document_store l d with ⟨e, hfails⟩ | ⟨-, hdoc, -⟩
  · rw [h] at hfails
    cases hfails
  · exact hdoc

theorem exists_disk_of_store {l : FileLedger} {d : Document} {e : LedgerError}
    (h : (l.store d).1 = .error e) : ∃ e', e = .disk e' := by
  rcases document_store l d with ⟨e', hfails⟩ | ⟨hdone, -⟩
  · exact ⟨e', Except.error.inj (h.symm.trans hfails)⟩
  · rw [h] at hdone
    cases hdone

theorem store_eq_ok {l : FileLedger} (hp : l.disk.TakesFile l.path)
    (ht : l.disk.TakesFile l.temporary) (d : Document) : (l.store d).1 = .ok () := by
  obtain ⟨written, renamed, hwrite, hrename⟩ :=
    Disk.exists_rename_write d.toText.toUTF8 ht hp
  simp only [store_eq, hwrite, hrename]

-- ════════════════════════════════════════════════════════════════════════
-- What a step does
-- ════════════════════════════════════════════════════════════════════════

section Step

variable {l : FileLedger} {d : Document}

theorem get_of_document (hd : l.document = .ok d) (id : JobId) :
    Ledger.get l id = Ledger.get d.jobs id := by
  rw [get_eq, hd]
  exact congrArg Except.ok (Document.get?_jobs d id).symm

theorem snapshot_of_document (hd : l.document = .ok d) (id : JobId) (now : Instant) :
    Ledger.snapshot l id now = Ledger.snapshot d.jobs id now := by
  rw [Ledger.snapshot, Ledger.snapshot, get_of_document hd]

theorem insert_cases (hd : l.document = .ok d) (id : JobId) (record : Record) :
    (Ledger.insert l id record = ((Ledger.insert d.jobs id record).1, l) ∧
      (Ledger.insert d.jobs id record).2 = d.jobs) ∨
    (Ledger.insert l id record = l.store (d.insert id.toText record) ∧
      Ledger.insert d.jobs id record = (.ok (), ⟨d.jobs.records.insert id record⟩)) := by
  rw [insert_eq, hd]
  simp only [Ledger.insert, MemoryLedger.insert, Document.contains_jobs]
  by_cases hc : d.contains id.toText = true
  · exact Or.inl ⟨by rw [if_pos hc, if_pos hc], by rw [if_pos hc]⟩
  · exact Or.inr ⟨by rw [if_neg hc], by rw [if_neg hc]⟩

theorem replace_cases (hd : l.document = .ok d) (id : JobId) (expected record : Record) :
    (Ledger.replace l id expected record = ((Ledger.replace d.jobs id expected record).1, l) ∧
      (Ledger.replace d.jobs id expected record).2 = d.jobs) ∨
    (Ledger.replace l id expected record = l.store (d.insert id.toText record) ∧
      Ledger.replace d.jobs id expected record
        = (.ok (), ⟨d.jobs.records.insert id record⟩)) := by
  rw [replace_eq, hd]
  simp only [Ledger.replace, MemoryLedger.replace, Document.get?_jobs]
  cases d.get? id.toText with
  | none => exact Or.inl ⟨rfl, rfl⟩
  | some current =>
    cases hcheck : Record.ensureUnchanged id expected current with
    | error e => simp [hcheck]
    | ok _ => simp [hcheck]

/-- A job that is saved for the record that stands there replaces this record in the document. -/
theorem save_of_document (hd : l.document = .ok d) {id : JobId} {record : Record}
    (hget : d.get? id.toText = some record) (j : Job) :
    Ledger.save l id record j = l.store (d.insert id.toText j.toRecord) := by
  simp only [Ledger.save, replace_eq, hd, hget, Record.ensureUnchanged,
    if_pos]

/-- A step of a ledger on disk either leaves the disk alone and gives the reply of the ledger in
memory, which stays the same too, or it replaces the document where the ledger in memory accepts a
write. -/
theorem perform_cases (hd : l.document = .ok d) (r : Request) :
    (Ledger.perform l r = ((Ledger.perform d.jobs r).1, l) ∧
      (Ledger.perform d.jobs r).2 = d.jobs) ∨
    (∃ id record reply, Ledger.perform l r
        = (.ofResult (fun _ => reply) (l.store (d.insert id.toText record)).1,
          (l.store (d.insert id.toText record)).2) ∧
      Ledger.perform d.jobs r = (reply, ⟨d.jobs.records.insert id record⟩) ∧
      reply.isGranted = true) := by
  cases r with
  | get id =>
    left
    simp only [Ledger.perform, get_of_document hd, and_self]
  | insert id record =>
    simp only [Ledger.perform]
    rcases insert_cases hd id record with ⟨hl, hm⟩ | ⟨hl, hm⟩
    · exact Or.inl ⟨by rw [hl], hm⟩
    · exact Or.inr ⟨id, record, .done, by rw [hl], by rw [hm]; rfl, rfl⟩
  | create id job =>
    simp only [Ledger.perform, Ledger.create]
    rcases insert_cases hd id job.toRecord with ⟨hl, hm⟩ | ⟨hl, hm⟩
    · exact Or.inl ⟨by rw [hl], hm⟩
    · refine Or.inr ⟨id, job.toRecord, .created id, ?_, by rw [hm]; rfl, rfl⟩
      rw [hl]
      cases (l.store (d.insert id.toText job.toRecord)).1 <;> rfl
  | replace id expected record =>
    simp only [Ledger.perform]
    rcases replace_cases hd id expected record with ⟨hl, hm⟩ | ⟨hl, hm⟩
    · exact Or.inl ⟨by rw [hl], hm⟩
    · exact Or.inr ⟨id, record, .done, by rw [hl], by rw [hm]; rfl, rfl⟩
  | load id now =>
    left
    simp only [Ledger.perform, Ledger.load, snapshot_of_document hd, and_self]
  | snapshot id now =>
    left
    simp only [Ledger.perform, snapshot_of_document hd, and_self]
  | save id read job =>
    simp only [Ledger.perform, Ledger.save]
    rcases replace_cases hd id read job.toRecord with ⟨hl, hm⟩ | ⟨hl, hm⟩
    · exact Or.inl ⟨by rw [hl], hm⟩
    · exact Or.inr ⟨id, job.toRecord, .done, by rw [hl], by rw [hm]; rfl, rfl⟩

end Step

-- ════════════════════════════════════════════════════════════════════════
-- The ledger in memory
-- ════════════════════════════════════════════════════════════════════════

/-- A ledger in memory has the records of a ledger on disk that stand under ids; the others are
given too. -/
def Represents (rest : Document) (l : FileLedger) (m : MemoryLedger) : Prop :=
  ∃ d, l.document = .ok d ∧ d.jobs = m ∧ d.others = rest

/-- A ledger on disk behaves like the one in memory that has its records. -/
theorem simulates_represents (rest : Document) : Ledger.Simulates (Represents rest) where
  get_eq := by
    rintro l m ⟨d, hd, rfl, -⟩ id
    exact get_of_document hd id
  perform := by
    rintro l m ⟨d, hd, rfl, rfl⟩ r hfail
    rcases perform_cases hd r with ⟨hl, hm⟩ | ⟨id, record, reply, hl, hm, -⟩
    · rw [hl, hm]
      exact ⟨rfl, d, hd, rfl, rfl⟩
    · rw [hl] at hfail ⊢
      rcases document_store l (d.insert id.toText record) with ⟨e, hstore⟩ | ⟨hstore, hdoc, -⟩
      · rw [hstore] at hfail
        cases hfail
      · rw [hstore, hm]
        exact ⟨rfl, _, hdoc, Document.jobs_insert d id record, Document.others_insert d id record⟩

/-- Whether the document can be written and can take its name. -/
def IsUnhindered (l : FileLedger) : Prop :=
  l.disk.TakesFile l.path ∧ l.disk.TakesFile l.temporary

/-- No call of the file system fails where nothing hinders it, and nothing will hinder the next
one. -/
theorem isUnhindered_perform {l : FileLedger} {d : Document} (hd : l.document = .ok d)
    (hl : l.IsUnhindered) (r : Request) :
    (Ledger.perform l r).1.isDiskFailure = false ∧ (Ledger.perform l r).2.IsUnhindered := by
  have hmem := d.jobs.isDiskFailure_perform r
  rcases perform_cases hd r with ⟨heq, -⟩ | ⟨id, record, reply, heq, hm, -⟩
  · rw [heq]
    exact ⟨hmem, hl⟩
  · have hok := store_eq_ok hl.1 hl.2 (d.insert id.toText record)
    rw [heq, hok]
    rw [hm] at hmem
    refine ⟨hmem, ?_⟩
    rcases document_store l (d.insert id.toText record) with ⟨e, hstore⟩ | ⟨-, -, hsame⟩
    · rw [hok] at hstore
      cases hstore
    · refine ⟨?_, ?_⟩
      · rw [path_store]
        exact hsame.takesFile hl.1
      · rw [temporary, path_store]
        exact hsame.takesFile hl.2

/-- No call of the file system fails during a whole run where nothing hinders the first one. -/
theorem undisturbed_run {rest : Document} {l : FileLedger} {m : MemoryLedger}
    (h : Represents rest l m) (hl : l.IsUnhindered) (rs : List Request) :
    Undisturbed (Ledger.run l rs).1 := by
  induction rs generalizing l m with
  | nil => exact Ledger.undisturbed_nil
  | cons r rs ih =>
    obtain ⟨d, hd, -⟩ := id h
    obtain ⟨hreply, hnext⟩ := isUnhindered_perform hd hl r
    have hstep := ((simulates_represents rest).perform h r hreply).2
    exact Ledger.undisturbed_cons.2 ⟨hreply, ih hstep hnext⟩

/-- A document is written in the working directory unless a directory stands in its place or beside
it. -/
theorem isUnhindered_of_node? {d : Disk} (hpath : d.node? ["jobs.json"] ≠ some .directory)
    (htemporary : d.node? ["jobs.tmp"] ≠ some .directory) :
    (FileLedger.mk ⟨["jobs.json"]⟩ d).IsUnhindered := by
  have hbeside : Path.withExtension ⟨["jobs.json"]⟩ "tmp" = ⟨["jobs.tmp"]⟩ := rfl
  rw [IsUnhindered, temporary, hbeside]
  exact ⟨⟨["jobs.json"], rfl, rfl, hpath, rfl⟩, ["jobs.tmp"], rfl, rfl, htemporary, rfl⟩

theorem path_perform (l : FileLedger) (r : Request) : (Ledger.perform l r).2.path = l.path :=
  path_performOn .calm l r

end FileLedger

-- ════════════════════════════════════════════════════════════════════════
-- Ledgers that are open at one path
-- ════════════════════════════════════════════════════════════════════════

namespace Disk

/-- The replies to requests that are made one after the other, each by a ledger that is opened for
it, and the disk after the last one. -/
def run (d : Disk) (p : Path) : List Request → List Reply × Disk
  | [] => ([], d)
  | r :: rs =>
    let first := Ledger.perform (FileLedger.mk p d) r
    let rest := first.2.disk.run p rs
    (first.1 :: rest.1, rest.2)

/-- It does not matter whether a ledger stays open between two steps. -/
theorem run_eq (d : Disk) (p : Path) (rs : List Request) :
    d.run p rs = ((Ledger.run (FileLedger.mk p d) rs).1, (Ledger.run (FileLedger.mk p d) rs).2.disk)
      ∧ (Ledger.run (FileLedger.mk p d) rs).2.path = p := by
  induction rs generalizing d with
  | nil => exact ⟨rfl, rfl⟩
  | cons r rs ih =>
    have hnext := FileLedger.path_perform ⟨p, d⟩ r
    rw [run, Ledger.run_cons]
    generalize Ledger.perform (FileLedger.mk p d) r = first at hnext ⊢
    obtain ⟨reply, p', d'⟩ := first
    obtain rfl : p' = p := hnext
    obtain ⟨hrun, hpath⟩ := ih d'
    exact ⟨by rw [hrun], hpath⟩

/-- Ledgers that are open at one path reply as one ledger in memory that starts with the records
which the file shows under ids, and leave a file that shows its records, with all records under other
keys as they were. No call of the file system fails if files can be written at the path and beside
it. -/
theorem run_eq_run_jobs {d : Disk} {p : Path} {doc : Document} (h : d.Shows p doc)
    (rs : List Request) :
    (d.TakesFile p → d.TakesFile (p.withExtension "tmp") → Undisturbed (d.run p rs).1) ∧
    (Undisturbed (d.run p rs).1 →
      (d.run p rs).1 = (Ledger.run doc.jobs rs).1 ∧
      ∃ doc', (d.run p rs).2.Shows p doc' ∧ doc'.jobs = (Ledger.run doc.jobs rs).2 ∧
        doc'.others = doc.others) := by
  obtain ⟨hrun, hpath⟩ := run_eq d p rs
  have hrep : FileLedger.Represents doc.others ⟨p, d⟩ doc.jobs :=
    ⟨doc, Disk.shows_iff.1 h, rfl, rfl⟩
  rw [hrun]
  refine ⟨fun hp ht => FileLedger.undisturbed_run hrep ⟨hp, ht⟩ rs, fun hquiet => ?_⟩
  obtain ⟨hreplies, doc', hdoc', hjobs, hothers⟩ :=
    (FileLedger.simulates_represents doc.others).run hrep hquiet
  refine ⟨hreplies, doc', Disk.shows_iff.2 ?_, hjobs, hothers⟩
  have hend : FileLedger.mk p (Ledger.run (FileLedger.mk p d) rs).2.disk
      = (Ledger.run (FileLedger.mk p d) rs).2 :=
    congrArg (FileLedger.mk · _) hpath.symm
  rw [hend]
  exact hdoc'

/-- A document with one record, under a key that is no id. -/
def draft : Document := Table.empty.insert "draft" ∅

/-- A disk with this document in the working directory. -/
def draftDisk : Disk := ⟨Table.empty.insert ["jobs.json"] (.file draft.toText.toUTF8)⟩

theorem shows_draft : draftDisk.Shows ⟨["jobs.json"]⟩ draft := by
  have hplace : draftDisk.locate ⟨["jobs.json"]⟩ = .ok ["jobs.json"] := rfl
  exact shows_of_node? hplace (by decide) rfl

theorem isUnhindered_draft : (FileLedger.mk ⟨["jobs.json"]⟩ draftDisk).IsUnhindered :=
  FileLedger.isUnhindered_of_node? (by decide) (by decide)

theorem represents_draft :
    FileLedger.Represents draft.others ⟨⟨["jobs.json"]⟩, draftDisk⟩ draft.jobs :=
  ⟨draft, shows_iff.1 shows_draft, rfl, rfl⟩

/-- A record under a key that is no id is still there after a record was entered under an id. -/
theorem run_eq_run_jobs_draft :
    draftDisk.Shows ⟨["jobs.json"]⟩ draft ∧
    draftDisk.TakesFile ⟨["jobs.json"]⟩ ∧
    draftDisk.TakesFile (Path.withExtension ⟨["jobs.json"]⟩ "tmp") ∧
    (draftDisk.run ⟨["jobs.json"]⟩ [.insert default ∅, .get default]).1
      = [.done, .record (some ∅)] ∧
    ∃ doc', (draftDisk.run ⟨["jobs.json"]⟩ [.insert default ∅, .get default]).2.Shows
        ⟨["jobs.json"]⟩ doc' ∧
      doc'.jobs = ⟨Table.empty.insert default ∅⟩ ∧ doc'.others = draft := by
  obtain ⟨hp, ht⟩ := isUnhindered_draft
  obtain ⟨hquiet, hrun⟩ := run_eq_run_jobs shows_draft [.insert default ∅, .get default]
  obtain ⟨hreplies, doc', hdoc', hjobs, hothers⟩ := hrun (hquiet hp ht)
  exact ⟨shows_draft, hp, ht, hreplies, doc', hdoc', hjobs, hothers⟩

end Disk

end EscrowLedger
