import EscrowLedger.Proofs.Ledger.Refinement

/-!
# No write is lost

Clients that take turns may hold records that are long out of date, and may write under any ids. A
write is accepted only if the record that its writer has read still stands under the id, so nobody
replaces a record without having seen it: the writes that are accepted under one id form a chain in
which each expects what the one before it has written.

## Main definitions

* `Ledger.accepted`, `Ledger.acceptedUnder` — the writes of a run that were accepted.
* `Ledger.IsChain`, `Ledger.lastRecord` — a chain of writes, and the record that it leaves.
* `Ledger.IsSerial` — what holds of a run that loses no write.

## Main statements

* `MemoryLedger.accepted_cases` — what an accepted write found and left, and that nothing else
  changes a ledger in memory.
* `MemoryLedger.isChain_run`, `MemoryLedger.size_run` — what follows for runs in memory.
* `Ledger.isSerial_of_simulates` — runs of all ledgers that behave like those in memory.
* `Ledger.isSerial_run` — ledgers in memory and on disk.
-/

namespace EscrowLedger

namespace Ledger

-- ════════════════════════════════════════════════════════════════════════
-- Accepted writes
-- ════════════════════════════════════════════════════════════════════════

/-- The write of a request, if the reply says that it was accepted. -/
def accepted? (r : Request) (reply : Reply) : Option Write :=
  if reply.isGranted then r.write? else none

/-- The writes of a run that were accepted, in order. -/
def accepted (rs : List Request) (replies : List Reply) : List Write :=
  (rs.zip replies).filterMap fun s => accepted? s.1 s.2

def acceptedUnder (id : JobId) (rs : List Request) (replies : List Reply) : List Write :=
  (accepted rs replies).filter (·.id = id)

/-- Whether each write expects what the one before it has written, and the first one what was found
at the start. -/
def IsChain : Option Record → List Write → Prop
  | _, [] => True
  | found, w :: ws => w.expected = found ∧ IsChain (some w.record) ws

/-- The record that writes leave: that of the last one, or what was found if there are none. -/
def lastRecord : Option Record → List Write → Option Record
  | found, [] => found
  | _, w :: ws => lastRecord (some w.record) ws

variable {r : Request} {reply : Reply} {w : Write}

theorem accepted?_eq_some_iff :
    accepted? r reply = some w ↔ reply.isGranted = true ∧ r.write? = some w := by
  rw [accepted?]
  split <;> simp_all

theorem accepted_cons_of_none (h : accepted? r reply = none) (rs : List Request)
    (replies : List Reply) : accepted (r :: rs) (reply :: replies) = accepted rs replies := by
  simp only [accepted, List.zip_cons_cons, List.filterMap_cons, h]

theorem accepted_cons_of_some (h : accepted? r reply = some w) (rs : List Request)
    (replies : List Reply) :
    accepted (r :: rs) (reply :: replies) = w :: accepted rs replies := by
  simp only [accepted, List.zip_cons_cons, List.filterMap_cons, h]

theorem exists_lastRecord (record : Record) (ws : List Write) :
    ∃ record', lastRecord (some record) ws = some record' := by
  induction ws generalizing record with
  | nil => exact ⟨record, rfl⟩
  | cons w ws ih => exact ih w.record

-- ════════════════════════════════════════════════════════════════════════
-- Runs that lose no write
-- ════════════════════════════════════════════════════════════════════════

/-- What holds of a run that starts with a given ledger if no write is lost. A request in the run is
named by the requests before it and after it, and is made to the ledger that the former have left. -/
structure IsSerial {σ : Type} [Ledger σ] (size : σ → Nat) (start : σ) (rs : List Request) :
    Prop where
  /-- A write is accepted exactly if what it expects stands under its id at this moment. -/
  granted_iff : ∀ {before r after w}, rs = before ++ r :: after → r.write? = some w →
    ((perform (run start before).2 r).1.isGranted = true ↔
      get (run start before).2 w.id = .ok w.expected)
  /-- It then enters its record as it is, and touches no other id. -/
  get_of_accepted : ∀ {before r after w}, rs = before ++ r :: after →
    accepted? r (perform (run start before).2 r).1 = some w →
    ∀ id, get (run start (before ++ [r])).2 id
      = if id = w.id then .ok (some w.record) else get (run start before).2 id
  /-- No other request changes a record. -/
  get_of_not_accepted : ∀ {before r after}, rs = before ++ r :: after →
    accepted? r (perform (run start before).2 r).1 = none →
    ∀ id, get (run start (before ++ [r])).2 id = get (run start before).2 id
  /-- The accepted writes under an id are a chain from the record that stood there at the start, and
  the record of the last one stands there at the end. -/
  chain : ∀ id, ∃ found, get start id = .ok found ∧
    IsChain found (acceptedUnder id rs (run start rs).1) ∧
    get (run start rs).2 id = .ok (lastRecord found (acceptedUnder id rs (run start rs).1))
  /-- No record is removed. -/
  kept : ∀ {before after id record}, rs = before ++ after →
    get (run start before).2 id = .ok (some record) →
    ∃ record', get (run start rs).2 id = .ok (some record')
  /-- There is one more record for every accepted write under a new id. -/
  size_eq : size (run start rs).2
    = size start + (accepted rs (run start rs).1).countP (·.expected.isNone)
  /-- A record that was shown with a job is a token for a write under its id for as long as no other
  write is accepted there. -/
  token : ∀ {before id now between r after shown record},
    rs = before ++ .snapshot id now :: between ++ r :: after →
    (perform (run start before).2 (.snapshot id now)).1 = .snapshot shown →
    acceptedUnder id between (run (run start before).2 between).1 = [] →
    r.write? = some ⟨id, some shown.record, record⟩ →
    (perform (run start (before ++ .snapshot id now :: between)).2 r).1.isGranted = true

end Ledger

-- ════════════════════════════════════════════════════════════════════════
-- Runs in memory
-- ════════════════════════════════════════════════════════════════════════

namespace MemoryLedger

open Ledger (Request Write accepted? accepted acceptedUnder IsChain lastRecord perform run)

variable (m : MemoryLedger)

theorem granted_iff {r : Request} {w : Write} (h : r.write? = some w) :
    (perform m r).1.isGranted = true ↔ m.records.get? w.id = w.expected := by
  obtain ⟨granted, refused, hgranted, hrefused, -, heq⟩ := perform_write m h
  rw [heq]
  split
  · next hw => exact ⟨fun _ => hw, fun _ => hgranted⟩
  · next hw =>
    rw [hrefused]
    exact ⟨fun h => absurd h Bool.false_ne_true, fun h => absurd h hw⟩

/-- A write is accepted and entered where it finds what it expects; all else leaves the ledger as it
is. -/
theorem accepted_cases (r : Request) :
    (∃ w, accepted? r (perform m r).1 = some w ∧ m.records.get? w.id = w.expected ∧
      (perform m r).2 = ⟨m.records.insert w.id w.record⟩) ∨
    (accepted? r (perform m r).1 = none ∧ (perform m r).2 = m) := by
  cases hw : r.write? with
  | none => exact Or.inr ⟨by rw [accepted?, hw, ite_self], Ledger.perform_of_no_write m hw⟩
  | some w =>
    obtain ⟨granted, refused, hgranted, hrefused, -, heq⟩ := perform_write m hw
    by_cases hexpected : m.records.get? w.id = w.expected
    · left
      rw [heq, if_pos hexpected]
      exact ⟨w, Ledger.accepted?_eq_some_iff.2 ⟨hgranted, hw⟩, hexpected, rfl⟩
    · right
      rw [heq, if_neg hexpected, accepted?, hrefused]
      exact ⟨rfl, rfl⟩

theorem isChain_run (rs : List Request) (id : JobId) :
    IsChain (m.records.get? id) (acceptedUnder id rs (run m rs).1) ∧
    (run m rs).2.records.get? id
      = lastRecord (m.records.get? id) (acceptedUnder id rs (run m rs).1) := by
  induction rs generalizing m with
  | nil => exact ⟨trivial, rfl⟩
  | cons r rs ih =>
    rw [Ledger.run_cons, acceptedUnder]
    rcases accepted_cases m r with ⟨w, haccepted, hexpected, hnext⟩ | ⟨haccepted, hnext⟩
    · obtain ⟨hchain, hlast⟩ := ih ⟨m.records.insert w.id w.record⟩
      rw [Ledger.accepted_cons_of_some haccepted, hnext]
      by_cases hid : w.id = id
      · subst hid
        rw [Table.get?_insert_self] at hchain hlast
        rw [List.filter_cons_of_pos (by simp)]
        exact ⟨⟨hexpected.symm, hchain⟩, hlast⟩
      · rw [Table.get?_insert_of_ne _ _ (Ne.symm hid)] at hchain hlast
        rw [List.filter_cons_of_neg (by simpa using hid)]
        exact ⟨hchain, hlast⟩
    · rw [Ledger.accepted_cons_of_none haccepted, hnext]
      exact ih m

theorem size_run (rs : List Request) :
    (run m rs).2.size
      = m.size + (accepted rs (run m rs).1).countP (·.expected.isNone) := by
  induction rs generalizing m with
  | nil => rfl
  | cons r rs ih =>
    rw [Ledger.run_cons]
    rcases accepted_cases m r with ⟨w, haccepted, hexpected, hnext⟩ | ⟨haccepted, hnext⟩
    · rw [Ledger.accepted_cons_of_some haccepted, hnext, ih, List.countP_cons, size, size,
        Table.size_insert, Table.contains, hexpected]
      cases w.expected with
      | none => simp; omega
      | some record => simp
    · rw [Ledger.accepted_cons_of_none haccepted, hnext]
      exact ih m

end MemoryLedger

-- ════════════════════════════════════════════════════════════════════════
-- Runs of other ledgers
-- ════════════════════════════════════════════════════════════════════════

/-- The number of records in the document of a ledger on disk. -/
def FileLedger.size (l : FileLedger) : Nat :=
  match l.document with
  | .ok d => Table.size d
  | .error _ => 0

theorem FileLedger.size_of_document {l : FileLedger} {d : Document} (h : l.document = .ok d) :
    l.size = Table.size d := by
  rw [size, h]

namespace Ledger

/-- No write is lost by a ledger that behaves like one in memory and has a fixed number of records
that the other one does not show. -/
theorem isSerial_of_simulates {σ : Type} [Ledger σ] {R : σ → MemoryLedger → Prop} (hR : Simulates R)
    {size : σ → Nat} {c : Nat} (hsize : ∀ {l m}, R l m → size l = m.size + c) {l : σ}
    {m : MemoryLedger} (h : R l m) {rs : List Request} (hrs : Undisturbed (run l rs).1) :
    IsSerial size l rs := by
  have hreply : ∀ {before r after}, rs = before ++ r :: after →
      (perform (run l before).2 r).1 = (perform (run m before).2 r).1 := by
    rintro before r after rfl
    exact hR.perform_at h hrs
  have hget : ∀ {before after}, rs = before ++ after → ∀ id,
      get (run l before).2 id = .ok ((run m before).2.records.get? id) := by
    rintro before after rfl id
    exact hR.get_eq (hR.run_before h hrs) id
  have hstep : ∀ {before r after}, rs = before ++ r :: after →
      rs = (before ++ [r]) ++ after := by
    intro before r after heq
    rw [heq, List.append_assoc, List.singleton_append]
  have hend : rs = rs ++ [] := (List.append_nil rs).symm
  obtain ⟨hreplies, hlast⟩ := hR.run h hrs
  constructor
  case granted_iff =>
    intro before r after w heq hw
    rw [hreply heq, hget heq, MemoryLedger.granted_iff _ hw, Except.ok.injEq]
  case get_of_accepted =>
    intro before r after w heq hw id
    rw [hget (hstep heq), hget heq, run_append]
    rw [hreply heq] at hw
    rcases MemoryLedger.accepted_cases (run m before).2 r with ⟨w', hw', -, hnext⟩ | ⟨hno, -⟩
    · obtain rfl : w = w' := Option.some.inj (hw.symm.trans hw')
      rw [run_cons, run_nil, hnext, Table.get?_insert]
      split <;> rfl
    · rw [hno] at hw
      cases hw
  case get_of_not_accepted =>
    intro before r after heq hno id
    rw [hget (hstep heq), hget heq, run_append]
    rw [hreply heq] at hno
    rcases MemoryLedger.accepted_cases (run m before).2 r with ⟨w, hw, -⟩ | ⟨-, hnext⟩
    · rw [hno] at hw
      cases hw
    · rw [run_cons, run_nil, hnext]
  case chain =>
    intro id
    obtain ⟨hchain, hleft⟩ := m.isChain_run rs id
    refine ⟨m.records.get? id, hR.get_eq h id, ?_, ?_⟩
    · rw [hreplies]
      exact hchain
    · rw [hreplies, hget hend, hleft]
  case kept =>
    intro before after id record heq hrecord
    rw [hget heq, Except.ok.injEq] at hrecord
    obtain ⟨-, hleft⟩ := (run m before).2.isChain_run after id
    obtain ⟨record', hrecord'⟩ := exists_lastRecord record
      (acceptedUnder id after (run (run m before).2 after).1)
    refine ⟨record', ?_⟩
    rw [hget hend, heq, run_append, hleft, hrecord, hrecord']
  case size_eq =>
    rw [hsize hlast, hsize h, hreplies, m.size_run rs]
    omega
  case token =>
    intro before id now between r after shown record heq hshown hnone hw
    have hread : rs = before ++ .snapshot id now :: (between ++ r :: after) := by
      rw [heq, List.append_assoc, List.cons_append]
    have hbefore : R (run l before).2 (run m before).2 := by
      rw [hread] at hrs
      exact hR.run_before h hrs
    -- A snapshot is only read, so the run between goes on with the ledger that it was read from.
    have hquiet : Undisturbed (run (run l before).2 between).1 := by
      rw [hread, run_append, run_cons, undisturbed_append, undisturbed_cons] at hrs
      have hlater := hrs.2.2
      rw [run_append, undisturbed_append] at hlater
      exact hlater.1
    have hfound : (run m before).2.records.get? id = some shown.record := by
      have hshown' := get_of_perform_snapshot hshown
      rw [hget hread] at hshown'
      exact Except.ok.inj hshown'
    obtain ⟨-, hleft⟩ := (run m before).2.isChain_run between id
    rw [← (hR.run hbefore hquiet).1, hnone, hfound] at hleft
    rw [hreply heq, MemoryLedger.granted_iff _ hw, run_append, run_cons]
    exact hleft

/-- No ledger loses a write, whatever it holds at the start and in whatever order clients take their
turns: neither one in memory nor one on disk, if no call of the file system fails. -/
theorem isSerial_run (rs : List Request) :
    (∀ m : MemoryLedger, IsSerial MemoryLedger.size m rs) ∧
    ∀ {d : Disk} {p : Path} {doc : Document}, d.Shows p doc →
      Undisturbed (run (FileLedger.mk p d) rs).1 → IsSerial FileLedger.size ⟨p, d⟩ rs := by
  constructor
  · intro m
    exact isSerial_of_simulates (c := 0) simulates_eq (fun h => by rw [h, Nat.add_zero]) rfl
      (m.undisturbed_run rs)
  · intro d p doc h hrs
    refine isSerial_of_simulates (c := Table.size doc.others) (FileLedger.simulates_represents doc.others) ?_
      ⟨doc, Disk.shows_iff.1 h, rfl, rfl⟩ hrs
    rintro l m ⟨doc', hdoc', rfl, hothers⟩
    rw [FileLedger.size_of_document hdoc', Document.size_eq, hothers]

/-- Two writers that start from one record. -/
def twoWriters : List Request :=
  [.insert default ∅, .replace default ∅ (Table.empty.insert "a" "1"),
    .replace default ∅ (Table.empty.insert "a" "2")]

/-- The first of two writers wins, and the other one is told. -/
theorem isSerial_run_twoWriters :
    Disk.draftDisk.Shows ⟨["jobs.json"]⟩ Disk.draft ∧
    (run (FileLedger.mk ⟨["jobs.json"]⟩ Disk.draftDisk) twoWriters).1
      = [.done, .done, .refused (.conflict default "")] ∧
    Undisturbed (run (FileLedger.mk ⟨["jobs.json"]⟩ Disk.draftDisk) twoWriters).1 ∧
    IsSerial FileLedger.size ⟨⟨["jobs.json"]⟩, Disk.draftDisk⟩ twoWriters := by
  have hrep : FileLedger.Represents Disk.draft.others ⟨⟨["jobs.json"]⟩, Disk.draftDisk⟩
      Disk.draft.jobs :=
    ⟨Disk.draft, Disk.shows_iff.1 Disk.shows_draft, rfl, rfl⟩
  have hquiet := FileLedger.undisturbed_run hrep Disk.isUnhindered_draft twoWriters
  have hreplies := ((FileLedger.simulates_represents Disk.draft.others).run hrep hquiet).1
  exact ⟨Disk.shows_draft, hreplies, hquiet, (isSerial_run twoWriters).2 Disk.shows_draft hquiet⟩

end Ledger

end EscrowLedger
