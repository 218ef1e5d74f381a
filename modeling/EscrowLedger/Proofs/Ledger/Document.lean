import EscrowLedger.Ledger.Document
import EscrowLedger.Ledger.InMemory
import EscrowLedger.Proofs.Json.Reading

/-!
# Documents and the ledgers they stand for

A document is read back from its text, whatever texts are its keys and values. It falls into two
parts that do not meet: the records under the written forms of ids, which make up a ledger in
memory, and the records under other keys, which no operation on a ledger reaches.

## Main definitions

* `JobId.ofWritten?` — the id of a text that is exactly its written form.
* `Document.jobs` — the ledger in memory that a document stands for.
* `Document.others` — the records under keys that are no ids.

## Main statements

* `Document.ofText_toText` — a document is read back from its text.
* `Document.jobs_insert`, `Document.others_insert` — what entering a record under an id changes.
-/

namespace EscrowLedger

namespace JobId

/-- The id of a text that is its written form: lower-case digits in hyphenated groups. -/
def ofWritten? (s : String) : Option JobId := (ofText? s).filter (·.toText = s)

theorem ofWritten?_eq_some_iff {s : String} {id : JobId} :
    ofWritten? s = some id ↔ s = id.toText := by
  rw [ofWritten?, Option.filter_eq_some_iff, decide_eq_true_eq]
  constructor
  · rintro ⟨-, h⟩
    exact h.symm
  · rintro rfl
    exact ⟨ofText?_toText id, rfl⟩

@[simp] theorem ofWritten?_toText (id : JobId) : ofWritten? id.toText = some id :=
  ofWritten?_eq_some_iff.2 rfl

end JobId

theorem Record.ofOutline_toJson (r : Record) :
    Record.format.ofOutline (.ofJson r.toJson) = .ok r :=
  Json.Format.ofOutline_mapOf .text (fun _ => rfl) r

namespace Document

-- ════════════════════════════════════════════════════════════════════════
-- The text of a document
-- ════════════════════════════════════════════════════════════════════════

/-- The text of a document is not blank, since it starts with a brace. -/
theorem isBlank_toText (d : Document) : Text.isBlank d.toText = false := by
  obtain ⟨entries, hinc⟩ := d
  rw [Text.isBlank, toText, Json.pretty, String.toList_ofList]
  cases entries <;> rfl

@[simp] theorem ofText_toText (d : Document) : ofText d.toText = .ok d := by
  rw [ofText, isBlank_toText, if_neg Bool.false_ne_true, toText, Json.Format.readText_pretty]
  exact Json.Format.ofOutline_mapOf Record.format Record.ofOutline_toJson d

-- ════════════════════════════════════════════════════════════════════════
-- The two parts of a document
-- ════════════════════════════════════════════════════════════════════════

/-- The records under the written forms of ids, each under its id. -/
def jobEntries (d : Document) : List (JobId × Record) :=
  d.entries.filterMap fun e => (JobId.ofWritten? e.1).map (·, e.2)

/-- The ledger in memory that a document stands for. -/
def jobs (d : Document) : MemoryLedger := ⟨Table.ofList d.jobEntries⟩

/-- The records under keys that are no ids. -/
def others (d : Document) : Document :=
  ⟨d.entries.filter fun e => (JobId.ofWritten? e.1).isNone, d.increasing.filter _⟩

theorem mem_jobEntries {d : Document} {id : JobId} {r : Record} :
    (id, r) ∈ d.jobEntries ↔ (id.toText, r) ∈ d.entries := by
  simp only [jobEntries, List.mem_filterMap, Option.map_eq_some_iff, Prod.mk.injEq]
  constructor
  · rintro ⟨⟨k, r'⟩, hmem, id', hid, rfl, rfl⟩
    rw [JobId.ofWritten?_eq_some_iff] at hid
    exact hid ▸ hmem
  · intro hmem
    exact ⟨_, hmem, id, JobId.ofWritten?_toText id, rfl, rfl⟩

theorem pairwise_jobEntries (d : Document) : d.jobEntries.Pairwise (fun a b => b.1 ≠ a.1) := by
  refine List.Pairwise.filterMap _ ?_ d.increasing
  rintro ⟨k, r⟩ ⟨k', r'⟩ hlt a ha b hb heq
  simp only [Option.map_eq_some_iff, JobId.ofWritten?_eq_some_iff] at ha hb
  obtain ⟨id, rfl, rfl⟩ := ha
  obtain ⟨id', rfl, rfl⟩ := hb
  obtain rfl : id' = id := heq
  simp at hlt

@[simp] theorem get?_jobs (d : Document) (id : JobId) :
    d.jobs.records.get? id = d.get? id.toText := by
  have hrev : d.jobEntries.reverse.Pairwise (fun a b => b.1 ≠ a.1) := by
    rw [List.pairwise_reverse]
    exact d.pairwise_jobEntries.imp fun h => h.symm
  refine Option.ext fun r => ?_
  rw [jobs, Table.get?_ofList, Table.lookup_eq_some_iff_of_nodup hrev, List.mem_reverse,
    mem_jobEntries, Table.get?_eq_some_iff]

@[simp] theorem contains_jobs (d : Document) (id : JobId) :
    d.jobs.records.contains id = d.contains id.toText := by
  rw [Table.contains, Table.contains, get?_jobs]

theorem get?_others (d : Document) (k : String) :
    d.others.get? k = if (JobId.ofWritten? k).isNone then d.get? k else none := by
  refine Option.ext fun r => ?_
  rw [Table.get?_eq_some_iff, others, List.mem_filter]
  split <;> simp_all [Table.get?_eq_some_iff]

theorem jobs_insert (d : Document) (id : JobId) (r : Record) :
    jobs (d.insert id.toText r) = ⟨d.jobs.records.insert id r⟩ := by
  refine congrArg MemoryLedger.mk (Table.ext_get? fun id' => ?_)
  change (jobs (d.insert id.toText r)).records.get? id' = _
  rw [get?_jobs, Table.get?_insert, Table.get?_insert, get?_jobs]
  simp only [JobId.toText_inj]

theorem others_insert (d : Document) (id : JobId) (r : Record) :
    others (d.insert id.toText r) = d.others := by
  refine Table.ext_get? fun k => ?_
  rw [get?_others, get?_others]
  split
  · next hk =>
    refine Table.get?_insert_of_ne d r ?_
    rintro rfl
    simp at hk
  · rfl

/-- Every record of a document is in one of its parts. -/
theorem size_eq (d : Document) : d.size = d.jobs.size + d.others.size := by
  have hjobs : d.jobs.size = d.entries.countP fun e => (JobId.ofWritten? e.1).isSome := by
    rw [jobs, MemoryLedger.size, Table.size_ofList d.pairwise_jobEntries, jobEntries,
      List.length_filterMap_eq_countP]
    simp only [Option.isSome_map]
  have hothers : d.others.size = d.entries.countP fun e => (JobId.ofWritten? e.1).isNone :=
    List.countP_eq_length_filter.symm
  rw [hjobs, hothers, Table.size,
    List.length_eq_countP_add_countP fun e => (JobId.ofWritten? e.1).isSome]
  congr 2
  funext e
  cases JobId.ofWritten? e.1 <;> rfl

/-- A document with one record, under an id. -/
def single : Document := Table.empty.insert (JobId.toText default) ∅

end Document

end EscrowLedger
