import EscrowLedger.Ledger.Basic

/-!
# Runs of a ledger

Clients of a ledger take turns: each asks for one step and gets one reply before the next step
begins. What a client asks for may rest on anything it was told before, so a run is a list of
requests of any kind, in any order, with any records for tokens, and no request says which client it
comes from.

## Main definitions

* `Ledger.Request`, `Ledger.Reply` — what clients ask for, and what they are told.
* `Ledger.Write` — the record that a request enters, and the one that it must find.
* `Ledger.perform`, `Ledger.run` — one step, and all steps of a list in turn.
* `Ledger.WasShown` — a snapshot was shown to a client earlier in a run.
* `Ledger.Undisturbed` — no call of the file system failed during a run.
* `Ledger.Simulates` — a ledger behaves like another one.

## Main statements

* `Ledger.run_append` — a run may be cut anywhere.
* `Ledger.Simulates.run` — what behaves alike in one step behaves alike in a run.
-/

namespace EscrowLedger.Ledger

/-- What a client asks of a ledger. A time is what the clock of the client reads at this step. -/
inductive Request where
  | get (id : JobId)
  | insert (id : JobId) (record : Record)
  /-- Enters a job under an id that was drawn for it. -/
  | create (id : JobId) (job : Job)
  | replace (id : JobId) (expected record : Record)
  | load (id : JobId) (now : Instant)
  | snapshot (id : JobId) (now : Instant)
  | save (id : JobId) (read : Record) (job : Job)
deriving DecidableEq

/-- A record that a client wants to enter under an id. -/
structure Write where
  id : JobId
  /-- The record that must stand there; none if the id must be new. -/
  expected : Option Record
  record : Record
deriving DecidableEq

/-- What a request writes if it is granted. -/
def Request.write? : Request → Option Write
  | .get _ => none
  | .insert id record => some ⟨id, none, record⟩
  | .create id job => some ⟨id, none, job.toRecord⟩
  | .replace id expected record => some ⟨id, some expected, record⟩
  | .load _ _ => none
  | .snapshot _ _ => none
  | .save id read job => some ⟨id, some read, job.toRecord⟩

/-- Whether a request would write under an id. -/
def Request.writesUnder (id : JobId) (r : Request) : Bool := r.write?.any (·.id = id)

/-- What a client is told. -/
inductive Reply where
  | record (found : Option Record)
  /-- A write was accepted. -/
  | done
  | created (id : JobId)
  | job (job : Job)
  | snapshot (snapshot : Snapshot)
  | refused (reason : LedgerError)
deriving DecidableEq

namespace Reply

def ofResult {α : Type} (tell : α → Reply) : Except LedgerError α → Reply
  | .ok a => tell a
  | .error e => .refused e

/-- Whether a client is told that a call of the file system failed. -/
def isDiskFailure : Reply → Bool
  | .refused (.disk _) => true
  | _ => false

/-- Whether a request was granted. -/
def isGranted : Reply → Bool
  | .refused _ => false
  | _ => true

theorem isDiskFailure_of_isGranted {reply : Reply} (h : reply.isGranted = true) :
    reply.isDiskFailure = false := by
  cases reply with
  | refused => cases h
  | record | done | created | job | snapshot => rfl

theorem isDiskFailure_refused {reason : LedgerError} (h : ∀ e, reason ≠ .disk e) :
    (refused reason).isDiskFailure = false := by
  cases reason with
  | disk e => exact absurd rfl (h e)
  | notFound | alreadyExists | conflict | invalidRecord | document => rfl

theorem isDiskFailure_ofResult {α : Type} {tell : α → Reply} {result : Except LedgerError α}
    (htell : ∀ a, (tell a).isDiskFailure = false) (h : ∀ e, result ≠ .error (.disk e)) :
    (ofResult tell result).isDiskFailure = false := by
  cases result with
  | ok a => exact htell a
  | error reason => exact isDiskFailure_refused fun e he => h e (congrArg Except.error he)

end Reply

section Steps

variable {σ : Type} [Ledger σ]

/-- A snapshot is the record under an id with the job that it describes. -/
theorem snapshot_eq (l : σ) (id : JobId) (now : Instant) :
    snapshot l id now = match get l id with
      | .error e => .error e
      | .ok none => .error (.notFound id)
      | .ok (some record) => match Job.ofRecord record now with
        | .error e => .error (.invalidRecord e)
        | .ok job => .ok ⟨job, record⟩ := by
  rw [snapshot]
  cases get l id with
  | error e => rfl
  | ok found =>
    cases found with
    | none => rfl
    | some record =>
      cases hjob : Job.ofRecord record now with
      | error e =>
        simp only [bind, Except.bind, hjob]
        rfl
      | ok job =>
        simp only [bind, Except.bind, hjob]
        rfl

theorem snapshot_eq_ok_iff {l : σ} {id : JobId} {now : Instant} {shown : Snapshot} :
    snapshot l id now = .ok shown ↔
      get l id = .ok (some shown.record) ∧ Job.ofRecord shown.record now = .ok shown.job := by
  rw [snapshot_eq]
  cases get l id with
  | error e => simp
  | ok found =>
    cases found with
    | none => simp
    | some record =>
      obtain ⟨job, record'⟩ := shown
      constructor
      · intro h
        cases hjob : Job.ofRecord record now with
        | error e => simp [hjob] at h
        | ok job' =>
          simp only [hjob, Except.ok.injEq, Snapshot.mk.injEq] at h
          obtain ⟨rfl, rfl⟩ := h
          exact ⟨rfl, hjob⟩
      · rintro ⟨hrecord, hjob⟩
        obtain rfl : record = record' := Option.some.inj (Except.ok.inj hrecord)
        simp only [hjob]

/-- The reply to a request, and the ledger after it. -/
def perform (l : σ) : Request → Reply × σ
  | .get id => (.ofResult .record (get l id), l)
  | .insert id record =>
    let result := insert l id record
    (.ofResult (fun _ => .done) result.1, result.2)
  | .create id job =>
    let result := create l id job
    (.ofResult .created result.1, result.2)
  | .replace id expected record =>
    let result := replace l id expected record
    (.ofResult (fun _ => .done) result.1, result.2)
  | .load id now => (.ofResult .job (load l id now), l)
  | .snapshot id now => (.ofResult .snapshot (snapshot l id now), l)
  | .save id read job =>
    let result := save l id read job
    (.ofResult (fun _ => .done) result.1, result.2)

theorem perform_create (l : σ) (id : JobId) (job : Job) :
    perform l (.create id job)
      = (Reply.ofResult (fun _ => .created id) (insert l id job.toRecord).1,
        (insert l id job.toRecord).2) := by
  rw [perform, create]
  cases (insert l id job.toRecord).1 <;> rfl

/-- A request that writes nothing leaves a ledger as it is. -/
theorem perform_of_no_write (l : σ) {r : Request} (h : r.write? = none) : (perform l r).2 = l := by
  cases r with
  | get | load | snapshot => rfl
  | insert | create | replace | save => cases h

theorem perform_snapshot_eq_iff {l : σ} {id : JobId} {now : Instant} {shown : Snapshot} :
    (perform l (.snapshot id now)).1 = .snapshot shown ↔ snapshot l id now = .ok shown := by
  rw [perform]
  cases snapshot l id now with
  | error e => simp [Reply.ofResult]
  | ok shown' => simp [Reply.ofResult]

theorem get_of_perform_snapshot {l : σ} {id : JobId} {now : Instant} {shown : Snapshot}
    (h : (perform l (.snapshot id now)).1 = .snapshot shown) :
    get l id = .ok (some shown.record) :=
  (snapshot_eq_ok_iff.1 (perform_snapshot_eq_iff.1 h)).1

/-- The replies to requests made one after the other, and the ledger after the last one. -/
def run (l : σ) : List Request → List Reply × σ
  | [] => ([], l)
  | r :: rs =>
    let first := perform l r
    let rest := run first.2 rs
    (first.1 :: rest.1, rest.2)

@[simp] theorem run_nil (l : σ) : run l [] = ([], l) := rfl

@[simp] theorem run_cons (l : σ) (r : Request) (rs : List Request) :
    run l (r :: rs)
      = ((perform l r).1 :: (run (perform l r).2 rs).1, (run (perform l r).2 rs).2) := rfl

theorem run_append (l : σ) (rs₁ rs₂ : List Request) :
    run l (rs₁ ++ rs₂)
      = ((run l rs₁).1 ++ (run (run l rs₁).2 rs₂).1, (run (run l rs₁).2 rs₂).2) := by
  induction rs₁ generalizing l with
  | nil => rfl
  | cons r rs₁ ih => simp only [List.cons_append, run_cons, ih]

/-- Requests that write nothing leave a ledger as it is. -/
theorem run_of_no_write (l : σ) {rs : List Request} (h : ∀ r ∈ rs, r.write? = none) :
    (run l rs).2 = l := by
  induction rs generalizing l with
  | nil => rfl
  | cons r rs ih =>
    rw [run_cons, perform_of_no_write l (h r List.mem_cons_self)]
    exact ih l fun r' hr' => h r' (List.mem_cons_of_mem r hr')

/-- Whether a snapshot of a record was the reply to one of the requests before. -/
def WasShown (l : σ) (id : JobId) (before : List Request) (shown : Snapshot) : Prop :=
  ∃ early now late, before = early ++ .snapshot id now :: late ∧
    (perform (run l early).2 (.snapshot id now)).1 = .snapshot shown

/-- The job in a snapshot is the one that its record describes. -/
theorem WasShown.ofRecord {l : σ} {id : JobId} {before : List Request} {shown : Snapshot}
    (h : WasShown l id before shown) : ∃ now, Job.ofRecord shown.record now = .ok shown.job := by
  obtain ⟨early, now, late, -, hshown⟩ := h
  exact ⟨now, (snapshot_eq_ok_iff.1 (perform_snapshot_eq_iff.1 hshown)).2⟩

end Steps

/-- Whether no call of the file system failed, as far as the clients were told. -/
def Undisturbed (replies : List Reply) : Prop :=
  ∀ reply ∈ replies, reply.isDiskFailure = false

@[simp] theorem undisturbed_nil : Undisturbed [] :=
  fun _ h => absurd h List.not_mem_nil

@[simp] theorem undisturbed_cons {reply : Reply} {replies : List Reply} :
    Undisturbed (reply :: replies) ↔ reply.isDiskFailure = false ∧ Undisturbed replies := by
  simp [Undisturbed]

@[simp] theorem undisturbed_append {replies₁ replies₂ : List Reply} :
    Undisturbed (replies₁ ++ replies₂) ↔ Undisturbed replies₁ ∧ Undisturbed replies₂ := by
  simp [Undisturbed, or_imp, forall_and]

section Simulation

variable {σ τ : Type} [Ledger σ] [Ledger τ]

/-- Related ledgers have the same records under ids, and after a request during which no call of the
file system fails they have given the same reply and are still related. -/
structure Simulates (R : σ → τ → Prop) : Prop where
  get_eq : ∀ {l m}, R l m → ∀ id, get l id = get m id
  perform : ∀ {l m}, R l m → ∀ r, (perform l r).1.isDiskFailure = false →
    (perform l r).1 = (perform m r).1 ∧ R (perform l r).2 (perform m r).2

theorem Simulates.run {R : σ → τ → Prop} (hR : Simulates R) {l : σ} {m : τ} (h : R l m)
    {rs : List Request} (hrs : Undisturbed (run l rs).1) :
    (run l rs).1 = (run m rs).1 ∧ R (run l rs).2 (run m rs).2 := by
  induction rs generalizing l m with
  | nil => exact ⟨rfl, h⟩
  | cons r rs ih =>
    rw [run_cons, undisturbed_cons] at hrs
    obtain ⟨hreply, hstep⟩ := hR.perform h r hrs.1
    obtain ⟨hreplies, hend⟩ := ih hstep hrs.2
    rw [run_cons, run_cons, hreply, hreplies]
    exact ⟨rfl, hend⟩

/-- Related ledgers are still related in the middle of a run. -/
theorem Simulates.run_before {R : σ → τ → Prop} (hR : Simulates R) {l : σ} {m : τ} (h : R l m)
    {before after : List Request} (hrs : Undisturbed (Ledger.run l (before ++ after)).1) :
    R (Ledger.run l before).2 (Ledger.run m before).2 := by
  rw [run_append, undisturbed_append] at hrs
  exact (hR.run h hrs.1).2

theorem Simulates.perform_at {R : σ → τ → Prop} (hR : Simulates R) {l : σ} {m : τ} (h : R l m)
    {before after : List Request} {r : Request}
    (hrs : Undisturbed (Ledger.run l (before ++ r :: after)).1) :
    (Ledger.perform (Ledger.run l before).2 r).1 = (Ledger.perform (Ledger.run m before).2 r).1 := by
  have hbefore := hR.run_before h hrs
  rw [run_append, run_cons, undisturbed_append, undisturbed_cons] at hrs
  exact (hR.perform hbefore r hrs.2.1).1

theorem simulates_eq : Simulates (Eq : σ → σ → Prop) where
  get_eq := by
    rintro l _ rfl id
    rfl
  perform := by
    rintro l _ rfl r -
    exact ⟨rfl, rfl⟩

end Simulation

end EscrowLedger.Ledger
