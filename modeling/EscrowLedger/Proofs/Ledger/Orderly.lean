import EscrowLedger.Proofs.Ledger.History
import EscrowLedger.Proofs.Ledger.Refusal

/-!
# What clients can rely on

Most of what can be said about clients of a ledger does not depend on how it keeps its records. It
is enough that records change by accepted writes only, and that an accepted write has found what it
expects. This holds of a ledger on disk even if calls of the file system fail for what stands on the
disk. Where none can fail, every write that finds what it expects is accepted, too.

## Main definitions

* `Ledger.IsOrderly` — records change by accepted writes only.
* `Ledger.IsReliable` — and no write is refused without need.
* `Ledger.ActsAs` — a ledger does in one step what a ledger in memory does.

## Main statements

* `Ledger.IsOrderly.get_perform`, `Ledger.IsOrderly.get_run` — who writes under other ids changes
  nothing under an id.
* `MemoryLedger.isReliable`, `FileLedger.isReliable` — ledgers in memory, and on disk where nothing
  hinders the file system.
* `FileLedger.isAvailable_store` — nothing hinders the file system once a document was written.
* `FileLedger.isOrderly` — ledgers on disk, whatever fails.
-/

namespace EscrowLedger

namespace Ledger

variable {σ : Type} [Ledger σ]

/-- Whether the records of a ledger change by accepted writes only, and an accepted write has found
what it expects, as long as the ledger has a property that it never loses. -/
structure IsOrderly (P : σ → Prop) : Prop where
  perform : ∀ {l}, P l → ∀ r, P (perform l r).2
  accepted : ∀ {l}, P l → ∀ {r w}, accepted? r (Ledger.perform l r).1 = some w →
    get l w.id = .ok w.expected ∧ ∀ id, get (Ledger.perform l r).2 id
      = if id = w.id then .ok (some w.record) else get l id
  get_eq : ∀ {l}, P l → ∀ {r}, accepted? r (Ledger.perform l r).1 = none →
    ∀ id, get (Ledger.perform l r).2 id = get l id

/-- Whether, besides, a write that finds what it expects is accepted. -/
structure IsReliable (P : σ → Prop) : Prop extends IsOrderly P where
  granted : ∀ {l}, P l → ∀ {r w}, r.write? = some w → get l w.id = .ok w.expected →
    (Ledger.perform l r).1.isGranted = true

variable {P : σ → Prop} {l : σ} {id : JobId} {r : Request} {rs : List Request}

theorem IsOrderly.run (hP : IsOrderly P) (hl : P l) (rs : List Request) : P (run l rs).2 := by
  induction rs generalizing l with
  | nil => exact hl
  | cons r rs ih => exact ih (hP.perform hl r)

/-- Who writes nothing under an id changes nothing there. -/
theorem IsOrderly.get_perform (hP : IsOrderly P) (hl : P l) (h : r.writesUnder id = false) :
    get (Ledger.perform l r).2 id = get l id := by
  cases haccepted : accepted? r (Ledger.perform l r).1 with
  | none => exact hP.get_eq hl haccepted id
  | some w =>
    obtain ⟨-, hafter⟩ := hP.accepted hl haccepted
    rw [hafter, if_neg]
    rintro rfl
    simp [Request.writesUnder, (accepted?_eq_some_iff.1 haccepted).2] at h

theorem IsOrderly.get_run (hP : IsOrderly P) (hl : P l)
    (h : ∀ r ∈ rs, r.writesUnder id = false) : get (Ledger.run l rs).2 id = get l id := by
  induction rs generalizing l with
  | nil => rfl
  | cons r rs ih =>
    have hrest := ih (hP.perform hl r) fun r' hr' => h r' (List.mem_cons_of_mem r hr')
    rw [run_cons, hrest, hP.get_perform hl (h r List.mem_cons_self)]

/-- A write that finds what it expects enters its record. -/
theorem IsReliable.get_of_expected (hP : IsReliable P) (hl : P l) {w : Write}
    (hw : r.write? = some w) (hget : get l w.id = .ok w.expected) :
    get (Ledger.perform l r).2 w.id = .ok (some w.record) := by
  obtain ⟨-, hafter⟩ := hP.accepted hl (accepted?_eq_some_iff.2 ⟨hP.granted hl hw hget, hw⟩)
  rw [hafter, if_pos rfl]

-- ════════════════════════════════════════════════════════════════════════
-- Ledgers that act as one in memory
-- ════════════════════════════════════════════════════════════════════════

/-- Whether a ledger has the records of one in memory and still has them after a request to which
both give one reply. -/
structure ActsAs (l : σ) (r : Request) (m : MemoryLedger) : Prop where
  get_eq : ∀ id, get l id = get m id
  reply_eq : (perform l r).1 = (perform m r).1
  next_eq : ∀ id, get (perform l r).2 id = get (perform m r).2 id

theorem Simulates.actsAs {R : σ → MemoryLedger → Prop} (hR : Simulates R) {m : MemoryLedger}
    (h : R l m) (hr : (Ledger.perform l r).1.isDiskFailure = false) : ActsAs l r m :=
  ⟨hR.get_eq h, (hR.perform h r hr).1, hR.get_eq (hR.perform h r hr).2⟩

namespace ActsAs

variable {m : MemoryLedger} {w : Write}

theorem accepted (h : ActsAs l r m) (hw : accepted? r (perform l r).1 = some w) :
    get l w.id = .ok w.expected ∧ ∀ id, get (perform l r).2 id
      = if id = w.id then .ok (some w.record) else get l id := by
  rw [h.reply_eq] at hw
  rcases m.accepted_cases r with ⟨w', hw', hexpected, hnext⟩ | ⟨hno, -⟩
  · obtain rfl : w = w' := Option.some.inj (hw.symm.trans hw')
    refine ⟨(h.get_eq w.id).trans (congrArg Except.ok hexpected), fun id => ?_⟩
    rw [h.next_eq, h.get_eq, hnext]
    simp only [get, Table.get?_insert]
    split <;> rfl
  · rw [hno] at hw
    cases hw

theorem get_eq_of_not_accepted (h : ActsAs l r m) (hno : accepted? r (perform l r).1 = none)
    (id : JobId) : get (perform l r).2 id = get l id := by
  rw [h.reply_eq] at hno
  rcases m.accepted_cases r with ⟨w, hw, -⟩ | ⟨-, hnext⟩
  · rw [hno] at hw
    cases hw
  · rw [h.next_eq, h.get_eq, hnext]

theorem granted (h : ActsAs l r m) (hw : r.write? = some w) (hget : get l w.id = .ok w.expected) :
    (perform l r).1.isGranted = true := by
  rw [h.get_eq] at hget
  rw [h.reply_eq]
  exact (m.granted_iff hw).2 (Except.ok.inj hget)

end ActsAs

/-- A ledger is reliable if it acts as some ledger in memory, whatever is asked of it. -/
theorem isReliable_of_actsAs (hstep : ∀ {l}, P l → ∀ r, P (perform l r).2 ∧ ∃ m, ActsAs l r m) :
    IsReliable P where
  perform hl r := (hstep hl r).1
  accepted hl _ _ hw := by
    obtain ⟨-, m, h⟩ := hstep hl _
    exact h.accepted hw
  get_eq hl _ hno := by
    obtain ⟨-, m, h⟩ := hstep hl _
    exact h.get_eq_of_not_accepted hno
  granted hl _ _ hw hget := by
    obtain ⟨-, m, h⟩ := hstep hl _
    exact h.granted hw hget

end Ledger

-- ════════════════════════════════════════════════════════════════════════
-- Ledgers in memory and on disk
-- ════════════════════════════════════════════════════════════════════════

open Ledger (Request accepted? perform IsOrderly IsReliable ActsAs isReliable_of_actsAs)

theorem MemoryLedger.isReliable : IsReliable fun _ : MemoryLedger => True :=
  isReliable_of_actsAs fun {m} _ _ => ⟨trivial, m, fun _ => rfl, rfl, fun _ => rfl⟩

namespace FileLedger

/-- Whether a document can be read and replaced. -/
def IsAvailable (l : FileLedger) : Prop := (∃ d, l.document = .ok d) ∧ l.IsUnhindered

theorem isReliable : IsReliable IsAvailable := by
  refine isReliable_of_actsAs fun {l} hl r => ?_
  obtain ⟨⟨d, hd⟩, hfree⟩ := hl
  have hR := simulates_represents d.others
  have hrep : Represents d.others l d.jobs := ⟨d, hd, rfl, rfl⟩
  obtain ⟨hok, hfree'⟩ := isUnhindered_perform hd hfree r
  obtain ⟨d', hd', -⟩ := (hR.perform hrep r hok).2
  exact ⟨⟨⟨d', hd'⟩, hfree'⟩, d.jobs, hR.actsAs hrep hok⟩

/-- Where one document could be written, others can be, too. -/
theorem isAvailable_store {l : FileLedger} {d : Document} (h : (l.store d).1 = .ok ()) :
    (l.store d).2.IsAvailable := by
  rcases document_store l d with ⟨e, hstore⟩ | ⟨-, hdoc, hsame⟩
  · rw [h] at hstore
    cases hstore
  refine ⟨⟨d, hdoc⟩, ?_⟩
  obtain ⟨temp, place, htemp, hplace⟩ := exists_takesFileAt h
  rw [IsUnhindered, temporary, path_store, Disk.takesFile_iff, Disk.takesFile_iff]
  exact ⟨⟨place, hsame.takesFileAt hplace⟩, temp, hsame.takesFileAt htemp⟩

end FileLedger

end EscrowLedger
