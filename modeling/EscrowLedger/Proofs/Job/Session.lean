import EscrowLedger.Proofs.Job.Draft
import EscrowLedger.Proofs.Job.Transport

/-!
# Work on a job

A client that works on a job has the job as it is and a draft of what will become of it. It changes
the draft step by step and commits it in the end, or it makes a single submission to the job; a
refusal leaves the job as it is. In between the job may be handed over to another client as a text.

## Main definitions

* `Draft.Call` — what can be done to a draft.
* `Draft.IsOf` — what a draft has in common with the job it was begun from.
* `Session`, `Session.Step` — a job and its draft, and the steps of the work on them.
* `Session.trace`, `Session.after` — the outcome of every step and the job after it, and what is
  left at the end.
* `Session.IsForward`, `Job.LeadsForwardTo` — work that submits everything under the policy that
  only leads forward.

## Main statements

* `Session.perform_handOff` — a job whose times have timestamps is handed over as it is.
* `Session.HasReached.after`, `Job.LeadsForwardTo.stage_le` — work that only leads forward ends at no
  earlier stage.
-/

namespace EscrowLedger

namespace JobState

theorem mayBecome_iff {old next : JobState} :
    old.mayBecome next = true ↔ next = old ∨ (old = .new ∧ next.isFinal = true) := by
  cases old <;> cases next <;> decide

theorem mayBecome_self (s : JobState) : s.mayBecome s = true := mayBecome_iff.2 (.inl rfl)

theorem mayBecome_trans {a b c : JobState} (hab : a.mayBecome b = true)
    (hbc : b.mayBecome c = true) : a.mayBecome c = true := by
  rcases mayBecome_iff.1 hab with rfl | ⟨rfl, -⟩
  · exact hbc
  · cases c <;> rfl

end JobState

/-- What can be done to a draft. -/
inductive Draft.Call where
  | setPolicy (policy : Policy)
  | submit (s : Submission)
  | moveTo (state : JobState)
deriving DecidableEq

def Draft.call (d : Draft) : Draft.Call → Except JobError Draft
  | .setPolicy policy => .ok (d.setPolicy policy)
  | .submit s => d.submit s
  | .moveTo state => d.moveTo state

-- ════════════════════════════════════════════════════════════════════════
-- Drafts and the jobs they were begun from
-- ════════════════════════════════════════════════════════════════════════

/-- What a draft has in common with the job it was begun from, whatever was done to it since. -/
structure Draft.IsOf (d : Draft) (j : Job) : Prop where
  services : d.job.services = j.services
  created : d.job.created = j.created
  lastUpdate : d.job.lastUpdate = j.lastUpdate
  state : j.state.mayBecome d.job.state = true

namespace Draft.IsOf

variable {d d' : Draft} {j : Job}

/-- Neither the authorization nor the policy matters. -/
theorem withAuthorization (j : Job) (authorization : Authorization) (policy : Policy) :
    (⟨{ j with authorization }, policy⟩ : Draft).IsOf j :=
  ⟨rfl, rfl, rfl, j.state.mayBecome_self⟩

theorem refl (d : Draft) : d.IsOf d.job := withAuthorization d.job d.job.authorization d.policy

theorem draft (j : Job) : j.draft.IsOf j := refl j.draft

theorem call (h : d.IsOf j) {c : Draft.Call} (hc : d.call c = .ok d') : d'.IsOf j := by
  cases c with
  | setPolicy policy =>
    cases hc
    exact ⟨h.services, h.created, h.lastUpdate, h.state⟩
  | submit s =>
    rw [Draft.call, Draft.submit_eq] at hc
    obtain ⟨auth, -, rfl⟩ := Except.map_eq_ok_iff.1 hc
    exact ⟨h.services, h.created, h.lastUpdate, h.state⟩
  | moveTo state =>
    rw [Draft.call, Draft.moveTo] at hc
    split at hc
    · next hstate =>
      cases hc
      exact ⟨h.services, h.created, h.lastUpdate, JobState.mayBecome_trans h.state hstate⟩
    · cases hc

end Draft.IsOf

-- ════════════════════════════════════════════════════════════════════════
-- Jobs under work
-- ════════════════════════════════════════════════════════════════════════

/-- The work on a job: the job as it is, and the draft of what will become of it. -/
structure Session where
  job : Job
  draft : Draft
deriving DecidableEq

namespace Session

/-- The work on a job when nothing has been done yet. -/
def start (j : Job) : Session := ⟨j, j.draft⟩

/-- A step of the work on a job. A time is what the clock reads at this step. -/
inductive Step where
  | call (c : Draft.Call)
  /-- Makes the draft the job. -/
  | commit (now : Instant)
  /-- Makes one submission to the job, for which a draft that was begun is given up. -/
  | advance (s : Submission) (policy : Policy) (now : Instant)
  /-- Begins a new draft. -/
  | restart
  /-- Writes the job as a text and goes on with the job that is read from it. -/
  | handOff
deriving DecidableEq

inductive Outcome where
  | done
  | refused (reason : JobError)
  /-- A text that was handed over is that of no job. -/
  | unreadable (reason : Json.Fault)

/-- Goes on with a job that was handed over, if its text could be read. -/
def receive (w : Session) : Except Json.Fault Job → Outcome × Session
  | .ok j => (.done, { w with job := j })
  | .error e => (.unreadable e, w)

/-- The outcome of a step, and the work after it. A draft to which something was refused is given
up. -/
def perform (w : Session) : Step → Outcome × Session
  | .call c =>
    match w.draft.call c with
    | .ok d => (.done, { w with draft := d })
    | .error e => (.refused e, start w.job)
  | .commit now => (.done, start (w.draft.commit now))
  | .advance s policy now =>
    match w.job.advance s policy now with
    | .ok j => (.done, start j)
    | .error e => (.refused e, w)
  | .restart => (.done, start w.job)
  | .handOff => w.receive (Job.ofText w.job.toText)

/-- Every step with its outcome and with the job after it. -/
def trace (w : Session) : List Step → List (Step × Outcome × Job)
  | [] => []
  | s :: ss => (s, (w.perform s).1, (w.perform s).2.job) :: (w.perform s).2.trace ss

/-- The work after some steps. -/
def after (w : Session) : List Step → Session
  | [] => w
  | s :: ss => (w.perform s).2.after ss

@[simp] theorem trace_cons (w : Session) (s : Step) (ss : List Step) :
    w.trace (s :: ss) = (s, (w.perform s).1, (w.perform s).2.job) :: (w.perform s).2.trace ss := rfl

@[simp] theorem after_nil (w : Session) : w.after [] = w := rfl

@[simp] theorem after_cons (w : Session) (s : Step) (ss : List Step) :
    w.after (s :: ss) = (w.perform s).2.after ss := rfl

theorem after_append (w : Session) (before between : List Step) :
    w.after (before ++ between) = (w.after before).after between := by
  induction before generalizing w with
  | nil => rfl
  | cons s before ih => exact ih (w.perform s).2

-- ════════════════════════════════════════════════════════════════════════
-- Handing a job over
-- ════════════════════════════════════════════════════════════════════════

/-- A job whose times have timestamps goes on as it was. -/
theorem perform_handOff {w : Session} (h : w.job.HasTimestamps) :
    w.perform .handOff = (.done, w) := by
  rw [perform, Job.ofText_toText_eq_self_iff.2 h]
  rfl

theorem draft_perform_handOff (w : Session) : (w.perform .handOff).2.draft = w.draft := by
  rw [perform]
  cases Job.ofText w.job.toText <;> rfl

/-- The text of another job may be refused. If it is not, the job goes on with its times as they are
written. -/
theorem job_perform_handOff (w : Session) : (w.perform .handOff).2.job = w.job ∨
    (w.perform .handOff).2.job.unordered = w.job.asWritten := by
  rw [perform]
  cases h : Job.ofText w.job.toText with
  | error e => exact .inl rfl
  | ok j => exact .inr (Job.ofText_toText_eq_ok_iff.1 h)

theorem stage_perform_handOff (w : Session) :
    (w.perform .handOff).2.job.stage = w.job.stage := by
  rcases w.job_perform_handOff with heq | heq
  · rw [heq]
  · exact Job.stage_of_asWritten heq

-- ════════════════════════════════════════════════════════════════════════
-- Work that leads forward
-- ════════════════════════════════════════════════════════════════════════

/-- Whether a step submits nothing but under the policy that only leads forward. -/
def submitsForward (w : Session) : Step → Prop
  | .call (.submit _) => w.draft.policy = .forwardOnly
  | .advance _ policy _ => policy = .forwardOnly
  | _ => True

/-- Whether everything is submitted under the policy that only leads forward. -/
def IsForward (w : Session) : List Step → Prop
  | [] => True
  | s :: ss => w.submitsForward s ∧ (w.perform s).2.IsForward ss

/-- Whether neither the job nor its draft is at a stage before a given one. -/
def HasReached (stage : Stage) (w : Session) : Prop :=
  stage ≤ w.job.stage ∧ stage ≤ w.draft.job.stage

theorem hasReached_start {stage : Stage} {j : Job} (h : stage ≤ j.stage) :
    HasReached stage (start j) :=
  ⟨h, h⟩

theorem HasReached.perform {stage : Stage} {w : Session} (h : HasReached stage w) {s : Step}
    (hs : w.submitsForward s) : HasReached stage (w.perform s).2 := by
  cases s with
  | call c =>
    simp only [Session.perform]
    split
    · next d hd =>
      refine ⟨h.1, ?_⟩
      cases c with
      | setPolicy policy =>
        cases hd
        exact h.2
      | submit s => exact Stage.le_trans h.2 (Draft.stage_le_of_submit hd hs)
      | moveTo state =>
        simp only [Draft.call, Draft.moveTo] at hd
        split at hd
        · cases hd
          exact h.2
        · cases hd
    · exact hasReached_start h.1
  | commit now => exact hasReached_start h.2
  | advance s policy now =>
    obtain rfl : policy = .forwardOnly := hs
    simp only [Session.perform]
    split
    · next j hj => exact hasReached_start (Stage.le_trans h.1 (Job.stage_le_of_advance hj))
    · exact h
  | restart => exact hasReached_start h.1
  | handOff =>
    refine ⟨?_, ?_⟩
    · rw [stage_perform_handOff]
      exact h.1
    · rw [draft_perform_handOff]
      exact h.2

theorem HasReached.after {stage : Stage} {w : Session} (h : HasReached stage w) {ss : List Step}
    (hss : w.IsForward ss) : HasReached stage (w.after ss) := by
  induction ss generalizing w with
  | nil => exact h
  | cons s ss ih => exact ih (h.perform hss.1) hss.2

end Session

namespace Job

/-- Whether work that submits everything under the policy that only leads forward can make one job
of another. -/
def LeadsForwardTo (j j' : Job) : Prop :=
  ∃ ss, (Session.start j).IsForward ss ∧ ((Session.start j).after ss).job = j'

theorem LeadsForwardTo.stage_le {j j' : Job} (h : j.LeadsForwardTo j') : j.stage ≤ j'.stage := by
  obtain ⟨ss, hss, rfl⟩ := h
  exact ((Session.hasReached_start (Stage.le_refl j.stage)).after hss).1

/-- A single submission under this policy leads forward. -/
theorem leadsForwardTo_of_advance {j j' : Job} {s : Submission} {now : Instant}
    (h : j.advance s .forwardOnly now = .ok j') : j.LeadsForwardTo j' := by
  refine ⟨[.advance s .forwardOnly now], ⟨rfl, trivial⟩, ?_⟩
  change (Session.perform (Session.start j) (.advance s .forwardOnly now)).2.job = j'
  simp only [Session.perform, Session.start, h]

end Job

end EscrowLedger
