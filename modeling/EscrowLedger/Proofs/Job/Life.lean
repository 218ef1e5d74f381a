import EscrowLedger.Proofs.Job.HandOver

/-!
# The life of a job

Whatever is done to a job, with a clock that reads what it likes, the job keeps its services, its
type of data and the time of its creation. The time of its last change is the latest of all that the
clock read when the job was changed and of the one the job came with, so it never goes back. The
state changes at most once, from new to a final state.

Nothing is assumed of the clock but for one thing: it may go back and it may stand still, but a job
that is handed over must have timestamps for its times. Without them the job still keeps its services
and its type of data, and its state still changes at most once; but the time of its creation is then
told from the timestamp only. A draft carries the time of the last change of the job it was begun
from, so that the commit of a draft cannot go behind it.

## Main definitions

* `Session.commitTimes` — what the clock reads at the steps of some work that make a new job.
* `Job.Continues` — what a job has in common with the one it was, whatever was done to it since.
* `Job.LivesOnAs` — what a job has in common with the one it was some changes ago.

## Main statements

* `Session.job_perform_of_ne_done` — a step that is not carried out leaves the job as it was.
* `Session.continues_perform`, `Session.continues_after` — how a job continues in one step and in all
  that follow.
* `Session.livesOnAs_perform`, `Session.livesOnAs_after` — how it lives on in them.
-/

namespace EscrowLedger

-- ════════════════════════════════════════════════════════════════════════
-- Jobs over time
-- ════════════════════════════════════════════════════════════════════════

/-- What a job has in common with the one it was, also if it was handed over without timestamps for
its times. -/
structure Job.Continues (j j' : Job) : Prop where
  services : j'.services = j.services
  created : j'.created.written = j.created.written
  state : j.state.mayBecome j'.state = true

namespace Job.Continues

variable {j j' j'' : Job}

theorem refl (j : Job) : j.Continues j := ⟨rfl, rfl, j.state.mayBecome_self⟩

theorem trans (h : j.Continues j') (h' : j'.Continues j'') : j.Continues j'' where
  services := h'.services.trans h.services
  created := h'.created.trans h.created
  state := JobState.mayBecome_trans h.state h'.state

/-- A job and what its text shows continue each other. -/
theorem of_asWritten (h : j'.unordered = j.asWritten) : j.Continues j' ∧ j'.Continues j := by
  have hservices : j'.services = j.services := congrArg (·.services) h
  have hstate : j'.state = j.state := congrArg (·.state) h
  have hcreated : j'.created.written = j.created.written := by
    have hshown : j'.created = j.created.written := congrArg (·.created) h
    rw [hshown, j.created.hasTimestamp_written.written_eq]
  have hsame : j.state.mayBecome j'.state = true ∧ j'.state.mayBecome j.state = true := by
    rw [hstate]
    exact ⟨j.state.mayBecome_self, j.state.mayBecome_self⟩
  exact ⟨⟨hservices, hcreated, hsame.1⟩, ⟨hservices.symm, hcreated.symm, hsame.2⟩⟩

end Job.Continues

/-- What a job has in common with the one it was before it was changed at some times. -/
structure Job.LivesOnAs (j : Job) (times : List Instant) (j' : Job) : Prop where
  services : j'.services = j.services
  created : j'.created = j.created
  created_le : j'.created ≤ j'.lastUpdate
  /-- No time is invented. -/
  lastUpdate_mem : j'.lastUpdate ∈ j.lastUpdate :: times
  /-- No time is forgotten. -/
  le_lastUpdate : ∀ t ∈ j.lastUpdate :: times, t ≤ j'.lastUpdate
  state : j'.state = j.state ∨ (j.state = .new ∧ j'.state.isFinal = true)

namespace Job.LivesOnAs

variable {j j' j'' : Job} {times times' : List Instant}

theorem refl (j : Job) : j.LivesOnAs [] j where
  services := rfl
  created := rfl
  created_le := j.created_le
  lastUpdate_mem := List.mem_singleton_self _
  le_lastUpdate := by
    intro t ht
    rw [List.mem_singleton.1 ht]
    exact Instant.le_refl _
  state := .inl rfl

theorem trans (h : j.LivesOnAs times j') (h' : j'.LivesOnAs times' j'') :
    j.LivesOnAs (times ++ times') j'' where
  services := h'.services.trans h.services
  created := h'.created.trans h.created
  created_le := h'.created_le
  lastUpdate_mem := by
    rw [← List.cons_append]
    rcases List.mem_cons.1 h'.lastUpdate_mem with heq | hmem
    · rw [heq]
      exact List.mem_append_left _ h.lastUpdate_mem
    · exact List.mem_append_right _ hmem
  le_lastUpdate := by
    intro t ht
    rw [← List.cons_append] at ht
    rcases List.mem_append.1 ht with ht | ht
    · have hstep : j'.lastUpdate ≤ j''.lastUpdate := h'.le_lastUpdate _ List.mem_cons_self
      exact Instant.le_trans (h.le_lastUpdate t ht) hstep
    · exact h'.le_lastUpdate t (List.mem_cons_of_mem _ ht)
  state := JobState.mayBecome_iff.1 <|
    JobState.mayBecome_trans (JobState.mayBecome_iff.2 h.state) (JobState.mayBecome_iff.2 h'.state)

end Job.LivesOnAs

-- ════════════════════════════════════════════════════════════════════════
-- Drafts and the jobs they were begun from
-- ════════════════════════════════════════════════════════════════════════

namespace Draft.IsOf

variable {d : Draft} {j : Job}

theorem continues (h : d.IsOf j) : j.Continues d.job :=
  ⟨h.services, congrArg Instant.written h.created, h.state⟩

/-- The commit of a draft is the one step that looks at the clock. -/
theorem commit (h : d.IsOf j) (now : Instant) : j.LivesOnAs [now] (d.commit now) := by
  have hlast : (d.commit now).lastUpdate = max now j.lastUpdate := by
    rw [← h.lastUpdate]
    rfl
  refine ⟨h.services, h.created, (d.commit now).created_le, ?_, ?_,
    JobState.mayBecome_iff.1 h.state⟩
  · rw [hlast]
    rcases Instant.max_eq_or now j.lastUpdate with hmax | hmax
    · rw [hmax]
      exact List.mem_cons_of_mem _ (List.mem_singleton_self now)
    · rw [hmax]
      exact List.mem_cons_self
  · intro t ht
    rw [hlast]
    rcases List.mem_cons.1 ht with rfl | ht
    · exact Instant.le_max_right now _
    · rw [List.mem_singleton.1 ht]
      exact Instant.le_max_left now _

end Draft.IsOf

-- ════════════════════════════════════════════════════════════════════════
-- Jobs under work
-- ════════════════════════════════════════════════════════════════════════

namespace Session

/-- What the clock reads at a step, if the step makes a new job. -/
def commitTime? (w : Session) : Step → Option Instant
  | .commit now => some now
  | .advance s policy now =>
    match w.job.advance s policy now with
    | .ok _ => some now
    | .error _ => none
  | .call _ | .restart | .handOff => none

/-- What the clock reads at those of some steps that make a new job. -/
def commitTimes (w : Session) : List Step → List Instant
  | [] => []
  | s :: ss => (w.commitTime? s).toList ++ (w.perform s).2.commitTimes ss

/-- A step that is not carried out leaves the job as it was. -/
theorem job_perform_of_ne_done {w : Session} {s : Step} (h : (w.perform s).1 ≠ .done) :
    (w.perform s).2.job = w.job := by
  cases s with
  | call c =>
    simp only [perform]
    split <;> rfl
  | commit now => exact absurd rfl h
  | advance s policy now =>
    simp only [perform] at h ⊢
    split
    · next j hj => exact absurd (by rw [hj]) h
    · rfl
  | restart => rfl
  | handOff =>
    simp only [perform] at h ⊢
    cases hread : Job.ofText w.job.toText with
    | ok j => exact absurd (by rw [hread, receive]) h
    | error e => rw [receive]

theorem isOf_start (j : Job) : (start j).draft.IsOf (start j).job := Draft.IsOf.draft j

-- ════════════════════════════════════════════════════════════════════════
-- What no step takes away
-- ════════════════════════════════════════════════════════════════════════

/-- A job continues in every step, and it continues in its draft. -/
theorem continues_perform {w : Session} (h : w.job.Continues w.draft.job) (s : Step) :
    w.job.Continues (w.perform s).2.job ∧
      (w.perform s).2.job.Continues (w.perform s).2.draft.job := by
  cases s with
  | call c =>
    simp only [perform]
    split
    · next d hd => exact ⟨.refl _, h.trans ((Draft.IsOf.refl w.draft).call hd).continues⟩
    · exact ⟨.refl _, .refl _⟩
  | commit now => exact ⟨⟨h.services, h.created, h.state⟩, .refl _⟩
  | advance s policy now =>
    simp only [perform]
    split
    · next j hj =>
      rw [Job.advance_eq] at hj
      obtain ⟨auth, -, rfl⟩ := Except.map_eq_ok_iff.1 hj
      exact ⟨⟨rfl, rfl, w.job.state.mayBecome_self⟩, .refl _⟩
    · exact ⟨.refl _, h⟩
  | restart => exact ⟨.refl _, .refl _⟩
  | handOff =>
    rw [draft_perform_handOff]
    rcases w.job_perform_handOff with hjob | hjob
    · rw [hjob]
      exact ⟨.refl _, h⟩
    · obtain ⟨hon, hback⟩ := Job.Continues.of_asWritten hjob
      exact ⟨hon, hback.trans h⟩

theorem continues_draft_after {w : Session} (h : w.job.Continues w.draft.job) (ss : List Step) :
    (w.after ss).job.Continues (w.after ss).draft.job := by
  induction ss generalizing w with
  | nil => exact h
  | cons s ss ih => exact ih (continues_perform h s).2

theorem continues_after {w : Session} (h : w.job.Continues w.draft.job) (ss : List Step) :
    w.job.Continues (w.after ss).job := by
  induction ss generalizing w with
  | nil => exact .refl w.job
  | cons s ss ih =>
    obtain ⟨hstep, hdraft⟩ := continues_perform h s
    exact hstep.trans (ih hdraft)

-- ════════════════════════════════════════════════════════════════════════
-- What every step tells of the times
-- ════════════════════════════════════════════════════════════════════════

/-- A step changes the job as it may be changed, and the draft is still one of the job. -/
theorem livesOnAs_perform {w : Session} (h : w.draft.IsOf w.job) {s : Step}
    (hs : s = .handOff → w.job.HasTimestamps) :
    w.job.LivesOnAs (w.commitTime? s).toList (w.perform s).2.job ∧
      (w.perform s).2.draft.IsOf (w.perform s).2.job := by
  cases s with
  | call c =>
    simp only [perform]
    split
    · next d hd => exact ⟨.refl _, h.call hd⟩
    · exact ⟨.refl _, isOf_start _⟩
  | commit now => exact ⟨h.commit now, isOf_start _⟩
  | advance s policy now =>
    cases hj : w.job.advance s policy now with
    | ok j =>
      simp only [perform, commitTime?, hj]
      rw [Job.advance_eq] at hj
      obtain ⟨auth, -, rfl⟩ := Except.map_eq_ok_iff.1 hj
      exact ⟨(Draft.IsOf.withAuthorization w.job auth policy).commit now, isOf_start _⟩
    | error e =>
      simp only [perform, commitTime?, hj]
      exact ⟨.refl _, h⟩
  | restart => exact ⟨.refl _, isOf_start _⟩
  | handOff =>
    rw [perform_handOff (hs rfl)]
    exact ⟨.refl _, h⟩

theorem isOf_after {w : Session} (h : w.draft.IsOf w.job) {ss : List Step}
    (hss : w.HandsOverTimed ss) : (w.after ss).draft.IsOf (w.after ss).job := by
  induction ss generalizing w with
  | nil => exact h
  | cons s ss ih => exact ih (livesOnAs_perform h hss.1).2 hss.2

theorem livesOnAs_run {w : Session} (h : w.draft.IsOf w.job) {ss : List Step}
    (hss : w.HandsOverTimed ss) : w.job.LivesOnAs (w.commitTimes ss) (w.after ss).job := by
  induction ss generalizing w with
  | nil => exact .refl w.job
  | cons s ss ih =>
    obtain ⟨hstep, hdraft⟩ := livesOnAs_perform h hss.1
    exact hstep.trans (ih hdraft hss.2)

/-- Between any two points of the work on a job, the job keeps its services, and its state stays
unless it was new and is now final. A step that is not carried out leaves the job as it was. If the
job is handed over only while there are timestamps for its times, it lives on: the time of its
creation stays as well, and the time of its last change is the latest of what it was and of what the
clock read at the changes in between. There always are such timestamps if the job came with them and
the clock reads no time without one. -/
theorem livesOnAs_after (j : Job) (before between : List Step) :
    ((start j).after before).job.Continues ((start j).after (before ++ between)).job ∧
    (∀ s, (((start j).after before).perform s).1 = .done ∨
      (((start j).after before).perform s).2.job = ((start j).after before).job) ∧
    ((start j).HandsOverTimed (before ++ between) →
      ((start j).after before).job.LivesOnAs (((start j).after before).commitTimes between)
        ((start j).after (before ++ between)).job) ∧
    (j.HasTimestamps → (∀ s ∈ before ++ between, s.HasTimestamp) →
      (start j).HandsOverTimed (before ++ between)) := by
  rw [after_append]
  refine ⟨?_, fun s => ?_, fun h => ?_, fun hj hss => ?_⟩
  · exact continues_after (continues_draft_after (.refl j) before) between
  · exact Classical.or_iff_not_imp_left.2 job_perform_of_ne_done
  · obtain ⟨hbefore, hbetween⟩ := handsOverTimed_append.1 h
    exact livesOnAs_run (isOf_after (isOf_start j) hbefore) hbetween
  · exact (hasTimestamps_start hj).handsOverTimed hss

/-- The middle of the leap second at the end of 2016. -/
def endOfYear : Instant := (Instant.ofParts? 1483228799 1500000000).get (by decide)

/-- A job is handed over after it was changed in a leap second, and changed again when the clock has
gone back. -/
def acrossYears : List Step := [.commit endOfYear, .handOff, .commit default]

/-- The leap second at the end of a year has a timestamp, so it is not forgotten. -/
theorem livesOnAs_after_acrossYears :
    (Job.create default default).HasTimestamps ∧ (∀ s ∈ acrossYears, s.HasTimestamp) ∧
    (start (.create default default)).HandsOverTimed acrossYears ∧
    (Job.create default default).LivesOnAs [endOfYear, default]
      ((start (.create default default)).after acrossYears).job := by
  obtain ⟨-, -, hlives, htimed⟩ := livesOnAs_after (.create default default) [] acrossYears
  have hleap : endOfYear.HasTimestamp := by decide
  have hstart : (default : Instant).HasTimestamp := by decide
  have hj : (Job.create default default).HasTimestamps := ⟨hstart, hstart⟩
  have hss : ∀ s ∈ acrossYears, s.HasTimestamp := by
    simp only [acrossYears, List.forall_mem_cons, List.not_mem_nil, false_implies, implies_true,
      and_true]
    exact ⟨hleap, trivial, hstart⟩
  exact ⟨hj, hss, htimed hj hss, hlives (htimed hj hss)⟩

/-- The leap second inside of a minute has none. A job that was created in it has another time of
creation when it is handed over, and another time of its last change, without any reading of the
clock. -/
theorem created_after_insideMinute :
    ((start (.create default Job.insideMinute)).after [.handOff]).job.created = Job.halfPast ∧
    (Job.create default Job.insideMinute).created = Job.insideMinute ∧
    Job.halfPast ≠ Job.insideMinute ∧
    ((start (.create default Job.insideMinute)).after [.handOff]).job.lastUpdate = Job.halfPast ∧
    (start (.create default Job.insideMinute)).commitTimes [.handOff] = [] := by
  rw [after_handOff_insideMinute]
  exact ⟨rfl, rfl, by decide, rfl, rfl⟩

end Session

end EscrowLedger
