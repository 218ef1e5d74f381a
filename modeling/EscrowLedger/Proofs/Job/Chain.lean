import EscrowLedger.Proofs.Escrow.Conversion
import EscrowLedger.Proofs.Job.Life

/-!
# Chains of calls

A job is changed by a chain of calls to its draft, of any kinds and in any order, and a commit at the
end. Every call is judged against what the calls before it have left: the policy in force, the stage
and the state of the draft. The chain fails at the first call that is refused, and for the reason of
that refusal; the calls behind it are not looked at.

What some calls leave is told by the last call of each kind, not by going through them one by one.
So it does not matter to a call how its predecessors were mixed.

## Main definitions

* `Job.change` — a chain of calls to the draft of a job, and the commit.
* `Draft.Standing`, with `Standing.after` — what the verdict on a call rests on, and what some calls
  make of it.
* `Draft.Standing.Refuses`, `Draft.Standing.FirstRefusal`, `Draft.Standing.Grants` — the calls that
  are refused, the first of a chain, and chains without any.
* `Job.BecomesBy` — what a chain makes of a job.

## Main statements

* `Draft.call_eq_error_iff`, `Draft.becomesBy_of_call` — a single call.
* `Draft.foldlM_call_eq_error_iff`, `Draft.becomesBy_of_foldlM` — the calls of a chain.
* `Job.change_judged` — a chain with its commit.
-/

namespace EscrowLedger

namespace Draft

namespace Call

def policy? : Call → Option Policy
  | .setPolicy policy => some policy
  | .submit _ | .moveTo _ => none

def submission? : Call → Option Submission
  | .submit s => some s
  | .setPolicy _ | .moveTo _ => none

def state? : Call → Option JobState
  | .moveTo state => some state
  | .setPolicy _ | .submit _ => none

/-- What the last call of a kind says, if there is one. -/
def last? {α : Type} (said : Call → Option α) (cs : List Call) : Option α :=
  (cs.filterMap said).getLast?

variable {α : Type} {said : Call → Option α}

theorem last?_append (cs cs' : List Call) :
    last? said (cs ++ cs') = (last? said cs').or (last? said cs) := by
  rw [last?, List.filterMap_append, List.getLast?_append]
  rfl

theorem last?_eq_none_iff {cs : List Call} : last? said cs = none ↔ ∀ c ∈ cs, said c = none := by
  rw [last?, List.getLast?_eq_none_iff, List.filterMap_eq_nil_iff]

theorem last?_submission?_eq_none_iff {cs : List Call} :
    last? submission? cs = none ↔ ∀ s, .submit s ∉ cs := by
  rw [last?_eq_none_iff]
  constructor
  · intro h s hs
    cases h (.submit s) hs
  · intro h c hc
    cases c with
    | setPolicy policy => rfl
    | submit s => exact absurd hc (h s)
    | moveTo state => rfl

end Call

/-- What the verdict on a call rests on. -/
structure Standing where
  policy : Policy
  stage : Stage
  state : JobState

def standing (d : Draft) : Standing := ⟨d.policy, d.job.stage, d.job.state⟩

namespace Standing

/-- What some calls leave if they are granted. -/
def after (v : Standing) (cs : List Call) : Standing where
  policy := (Call.last? Call.policy? cs).getD v.policy
  stage := ((Call.last? Call.submission? cs).map (·.stage)).getD v.stage
  state := (Call.last? Call.state? cs).getD v.state

/-- Whether a call is refused, and for what reason. A policy may always be set. -/
inductive Refuses (v : Standing) : Call → JobError → Prop
  /-- The artifacts of a submission do not fit its stage. -/
  | check {s : Submission} {violation : Violation} (breaks : s.check = .error violation) :
    v.Refuses (.submit s) (.invalidAuthorization violation)
  /-- A submission leads back, which the policy forbids. -/
  | order {s : Submission} (passes : s.check = .ok ()) (forward : v.policy = .forwardOnly)
    (back : s.stage < v.stage) : v.Refuses (.submit s) (.illegalStageTransition v.stage s.stage)
  /-- A final state would be left. -/
  | state {next : JobState} (final : v.state.isFinal = true) (other : next ≠ v.state) :
    v.Refuses (.moveTo next) (.illegalStateTransition v.state next)

/-- Whether no call of a chain is refused. -/
def Grants (v : Standing) (cs : List Call) : Prop :=
  ∀ before c behind, cs = before ++ c :: behind → ∀ reason, ¬(v.after before).Refuses c reason

/-- Whether the first call of a chain that is refused is refused for a reason. -/
def FirstRefusal (v : Standing) (cs : List Call) (reason : JobError) : Prop :=
  ∃ before c behind, cs = before ++ c :: behind ∧ v.Grants before ∧
    (v.after before).Refuses c reason

theorem after_append (v : Standing) (cs cs' : List Call) :
    v.after (cs ++ cs') = (v.after cs).after cs' := by
  simp only [after, Call.last?_append]
  congr 1
  · cases Call.last? Call.policy? cs' <;> rfl
  · cases Call.last? Call.submission? cs' <;> rfl
  · cases Call.last? Call.state? cs' <;> rfl

end Standing

end Draft

-- ════════════════════════════════════════════════════════════════════════
-- A single call
-- ════════════════════════════════════════════════════════════════════════

theorem JobState.mayBecome_eq_false_iff {old next : JobState} :
    old.mayBecome next = false ↔ old.isFinal = true ∧ next ≠ old := by
  cases old <;> cases next <;> decide

/-- What becomes of an authorization under the last submission, if anything was submitted. -/
inductive Authorization.Follows (auth : Authorization) : Option Submission → Authorization → Prop
  | kept : auth.Follows none auth
  | submitted {s : Submission} {next : Authorization} (passes : s.check = .ok ())
    (becomes : Authorization.ofSubmission s = .ok next) : auth.Follows (some s) next

theorem Authorization.Follows.trans {auth next last : Authorization} {o o' : Option Submission}
    (h : auth.Follows o next) (h' : next.Follows o' last) : auth.Follows (o'.or o) last := by
  cases h' with
  | kept => exact h
  | submitted passes becomes => exact .submitted passes becomes

/-- A submission that passes the check brings a session key. -/
theorem Authorization.Follows.isUnkeyed_iff {auth next : Authorization} {o : Option Submission}
    (h : auth.Follows o next) : next.isUnkeyed = true ↔ auth.isUnkeyed = true ∧ o = none := by
  cases h with
  | kept => simp
  | submitted passes becomes =>
    obtain ⟨_, hauth, hkeyed, -⟩ := exists_ofSubmission passes
    obtain rfl := Except.ok.inj (becomes.symm.trans hauth)
    simp [hkeyed]

/-- An authorization that is handed in is taken over as it is. -/
theorem Authorization.Follows.eq_of_toSubmission {auth next handed : Authorization}
    (h : auth.Follows (some handed.toSubmission) next) : next = handed := by
  cases h with
  | submitted _ becomes => exact Except.ok.inj (becomes.symm.trans handed.ofSubmission_toSubmission)

namespace Draft

variable {d d' d'' : Draft} {c : Call} {cs cs' : List Call} {reason : JobError}

theorem Standing.refuses_submit_iff {v : Standing} {s : Submission} :
    v.Refuses (.submit s) reason ↔ s.judge v.policy v.stage = .error reason := by
  rw [Submission.judge]
  constructor
  · intro h
    cases h with
    | check breaks =>
      rw [breaks]
      rfl
    | order passes forward back =>
      rw [passes]
      exact if_pos ⟨forward, back⟩
  · intro h
    cases hcheck : s.check with
    | error violation =>
      rw [hcheck] at h
      cases h
      exact .check hcheck
    | ok _ =>
      rw [hcheck] at h
      replace h : (if v.policy = .forwardOnly ∧ s.stage < v.stage then _ else _) = _ := h
      split at h
      · next horder =>
        cases h
        exact .order hcheck horder.1 horder.2
      · -- behind a passed check the conversion does not fail
        obtain ⟨auth, hauth, -⟩ := Authorization.exists_ofSubmission hcheck
        rw [hauth] at h
        cases h

theorem call_eq_error_iff : d.call c = .error reason ↔ d.standing.Refuses c reason := by
  cases c with
  | setPolicy policy =>
    constructor
    · rintro ⟨⟩
    · rintro ⟨⟩
  | submit s =>
    rw [call, submit_eq, Except.map_eq_error_iff, Standing.refuses_submit_iff]
    rfl
  | moveTo next =>
    rw [call, moveTo]
    constructor
    · intro h
      split at h
      · cases h
      · next hstays =>
        cases h
        obtain ⟨hfinal, hother⟩ := JobState.mayBecome_eq_false_iff.1 (Bool.not_eq_true _ ▸ hstays)
        exact .state hfinal hother
    · intro h
      cases h with
      | state hfinal hother =>
        have hstays := JobState.mayBecome_eq_false_iff.2 ⟨hfinal, hother⟩
        rw [if_neg (Bool.not_eq_true _ ▸ hstays)]
        rfl

/-- What some calls make of a draft if they are granted. -/
structure BecomesBy (d : Draft) (cs : List Call) (d' : Draft) : Prop where
  standing : d'.standing = d.standing.after cs
  authorization : d.job.authorization.Follows (Call.last? Call.submission? cs) d'.job.authorization
  services : d'.job.services = d.job.services
  created : d'.job.created = d.job.created
  lastUpdate : d'.job.lastUpdate = d.job.lastUpdate

theorem BecomesBy.trans (h : d.BecomesBy cs d') (h' : d'.BecomesBy cs' d'') :
    d.BecomesBy (cs ++ cs') d'' where
  standing := by rw [h'.standing, h.standing, Standing.after_append]
  authorization := by
    rw [Call.last?_append]
    exact h.authorization.trans h'.authorization
  services := h'.services.trans h.services
  created := h'.created.trans h.created
  lastUpdate := h'.lastUpdate.trans h.lastUpdate

theorem becomesBy_of_call (h : d.call c = .ok d') : d.BecomesBy [c] d' := by
  cases c with
  | setPolicy policy =>
    cases h
    exact ⟨rfl, .kept, rfl, rfl, rfl⟩
  | submit s =>
    rw [call, submit_eq] at h
    obtain ⟨auth, hjudge, rfl⟩ := Except.map_eq_ok_iff.1 h
    obtain ⟨hpasses, -, hauth⟩ := Submission.judge_eq_ok_iff.1 hjudge
    refine ⟨?_, .submitted hpasses hauth, rfl, rfl, rfl⟩
    change Standing.mk d.policy auth.stage d.job.state = ⟨d.policy, s.stage, d.job.state⟩
    rw [Submission.stage_of_judge hjudge]
  | moveTo state =>
    rw [call, moveTo] at h
    split at h
    · cases h
      exact ⟨rfl, .kept, rfl, rfl, rfl⟩
    · cases h

theorem becomesBy_of_foldlM (h : cs.foldlM call d = .ok d') : d.BecomesBy cs d' := by
  induction cs generalizing d with
  | nil =>
    cases h
    exact ⟨rfl, .kept, rfl, rfl, rfl⟩
  | cons c cs ih =>
    rw [List.foldlM_cons] at h
    obtain ⟨next, hcall, h⟩ := Except.bind_eq_ok_iff.1 h
    exact (becomesBy_of_call hcall).trans (ih h)

/-- The calls of a chain are all granted exactly if none of them is refused where it stands. -/
theorem exists_foldlM_call_iff :
    (∃ d', cs.foldlM call d = .ok d') ↔ d.standing.Grants cs := by
  constructor
  · rintro ⟨d', h⟩ before c behind rfl reason hrefuses
    rw [List.foldlM_append] at h
    obtain ⟨next, hbefore, h⟩ := Except.bind_eq_ok_iff.1 h
    rw [List.foldlM_cons] at h
    obtain ⟨_, hcall, -⟩ := Except.bind_eq_ok_iff.1 h
    rw [← (becomesBy_of_foldlM hbefore).standing, ← call_eq_error_iff, hcall] at hrefuses
    cases hrefuses
  · intro hgrants
    cases h : cs.foldlM call d with
    | ok d' => exact ⟨d', rfl⟩
    | error reason =>
      obtain ⟨before, c, behind, next, rfl, hbefore, hfails⟩ := Except.foldlM_eq_error_iff.1 h
      rw [call_eq_error_iff, (becomesBy_of_foldlM hbefore).standing] at hfails
      exact absurd hfails (hgrants before c behind rfl reason)

theorem foldlM_call_eq_error_iff :
    cs.foldlM call d = .error reason ↔ d.standing.FirstRefusal cs reason := by
  rw [Except.foldlM_eq_error_iff]
  constructor
  · rintro ⟨before, c, behind, next, rfl, hbefore, hfails⟩
    rw [call_eq_error_iff, (becomesBy_of_foldlM hbefore).standing] at hfails
    exact ⟨before, c, behind, rfl, exists_foldlM_call_iff.1 ⟨next, hbefore⟩, hfails⟩
  · rintro ⟨before, c, behind, rfl, hgrants, hrefuses⟩
    obtain ⟨next, hbefore⟩ := exists_foldlM_call_iff.2 hgrants
    rw [← (becomesBy_of_foldlM hbefore).standing, ← call_eq_error_iff] at hrefuses
    exact ⟨before, c, behind, next, rfl, hbefore, hrefuses⟩

/-- What describes a new job is refused by every draft. -/
theorem Standing.Grants.not_describesNew {v : Standing} (h : v.Grants cs) {s : Submission}
    (hs : .submit s ∈ cs) : ¬s.DescribesNew := by
  intro hnew
  obtain ⟨before, behind, hcs⟩ := List.append_of_mem hs
  cases hcheck : s.check with
  | ok _ => exact hnew.check_ne_ok hcheck
  | error violation => exact h before _ behind hcs _ (.check hcheck)

end Draft

-- ════════════════════════════════════════════════════════════════════════
-- Chains with their commit
-- ════════════════════════════════════════════════════════════════════════

namespace Job

open Draft (Call Standing)

/-- Changes a job by a chain of calls to its draft. -/
def change (j : Job) (cs : List Call) (now : Instant) : Except JobError Job :=
  (cs.foldlM Draft.call j.draft).map (·.commit now)

/-- What the first call of a chain is judged by. -/
def standing (j : Job) : Standing := ⟨.lenient, j.stage, j.state⟩

/-- What a chain makes of a job if it is granted. -/
structure BecomesBy (j : Job) (cs : List Call) (now : Instant) (j' : Job) : Prop where
  services : j'.services = j.services
  created : j'.created = j.created
  lastUpdate : j'.lastUpdate = max now j.lastUpdate
  /-- The state is the last one that was set. -/
  state : j'.state = (Call.last? Call.state? cs).getD j.state
  /-- The authorization is that of the last submission. -/
  authorization : j.authorization.Follows (Call.last? Call.submission? cs) j'.authorization
  /-- An authorization that was handed in last is taken over as it is. -/
  handed : ∀ auth : Authorization, Call.last? Call.submission? cs = some auth.toSubmission →
    j'.authorization = auth
  /-- Nothing that was submitted describes a new job. -/
  not_describesNew : ∀ s, .submit s ∈ cs → ¬s.DescribesNew
  /-- So the session key is missing only if it was missing before and nothing was submitted. -/
  isUnkeyed_iff : j'.authorization.isUnkeyed = true ↔
    j.authorization.isUnkeyed = true ∧ ∀ s, .submit s ∉ cs

/-- A single submission is a chain that sets the policy first. -/
theorem advance_eq_change (j : Job) (s : Submission) (policy : Policy) (now : Instant) :
    j.advance s policy now = j.change [.setPolicy policy, .submit s] now := by
  change ((j.draft.setPolicy policy).submit s >>= _) = _
  cases h : (j.draft.setPolicy policy).submit s with
  | error reason => simp [change, Draft.call, h, bind, Except.bind, Except.map]
  | ok d => simp [change, Draft.call, h, bind, Except.bind, Except.map, pure, Except.pure]

theorem becomesBy_of_change {j j' : Job} {cs : List Call} {now : Instant}
    (h : j.change cs now = .ok j') : j.BecomesBy cs now j' := by
  obtain ⟨d, hd, rfl⟩ := Except.map_eq_ok_iff.1 h
  have hbecomes := Draft.becomesBy_of_foldlM hd
  have hgrants := Draft.exists_foldlM_call_iff.1 ⟨d, hd⟩
  refine ⟨hbecomes.services, hbecomes.created, ?_, congrArg Standing.state hbecomes.standing,
    hbecomes.authorization, fun auth hlast => ?_, fun s hs => hgrants.not_describesNew hs, ?_⟩
  · change max now d.job.lastUpdate = _
    rw [hbecomes.lastUpdate]
    rfl
  · have hfollows := hbecomes.authorization
    rw [hlast] at hfollows
    exact hfollows.eq_of_toSubmission
  · rw [← Call.last?_submission?_eq_none_iff]
    exact hbecomes.authorization.isUnkeyed_iff

/-- A chain fails exactly if one of its calls is refused where it stands, and for the reason for
which the first such call is refused. Otherwise the job gets the authorization of the last submission
and the last state that was set, it was changed at the later of the time of the commit and of the
last change before, and the rest of it stays. -/
theorem change_judged (j : Job) (cs : List Call) (now : Instant) :
    (∀ reason, j.change cs now = .error reason ↔ j.standing.FirstRefusal cs reason) ∧
    ((∃ j', j.change cs now = .ok j') ↔ j.standing.Grants cs) ∧
    ∀ j', j.change cs now = .ok j' → j.BecomesBy cs now j' := by
  refine ⟨fun reason => ?_, ?_, fun j' => becomesBy_of_change⟩
  · rw [change, Except.map_eq_error_iff, Draft.foldlM_call_eq_error_iff]
    rfl
  · change _ ↔ j.draft.standing.Grants cs
    rw [← Draft.exists_foldlM_call_iff]
    constructor
    · rintro ⟨j', h⟩
      obtain ⟨d, hd, -⟩ := Except.map_eq_ok_iff.1 h
      exact ⟨d, hd⟩
    · rintro ⟨d, hd⟩
      exact ⟨d.commit now, Except.map_eq_ok_iff.2 ⟨d, hd, rfl⟩⟩

/-- A submission is judged against the stage that the one before it led to. -/
example : (default : Job).change [.submit (Authorization.credsAvailable firstKey).toSubmission,
    .setPolicy .forwardOnly, .submit (Authorization.initial (some firstKey)).toSubmission] default
      = .error (.illegalStageTransition .credsAvailable .initial) := rfl

end Job

end EscrowLedger
