import EscrowLedger.Proofs.Job.Session

/-!
# Handing a job over

A job may be handed over as a text wherever one likes between the steps of the work on it. The other
steps take the same course then, with the same outcomes and the same jobs, as long as no time is lost
on the way: a job must have timestamps for its times when it is handed over. It always has if the job
that the work began with has them, and if the clock never reads an instant without one.

## Main definitions

* `Session.HandsOverTimed` — whether a job is handed over only while its times have timestamps.
* `Session.HasTimestamps`, `Session.Step.HasTimestamp` — the same of the work and of what the clock
  reads.

## Main statements

* `Session.HasTimestamps.perform`, `Session.HasTimestamps.handsOverTimed` — one step of the work, and
  all steps.
* `Session.trace_filter_handOff` — the course of the other steps.
-/

namespace EscrowLedger

theorem Instant.max_eq_or (a b : Instant) : max a b = a ∨ max a b = b := by
  rw [Instant.max_def]
  split
  · exact .inr rfl
  · exact .inl rfl

namespace Session

/-- Whether there is a timestamp for what the clock reads at a step. -/
def Step.HasTimestamp : Step → Prop
  | .commit now | .advance _ _ now => now.HasTimestamp
  | .call _ | .restart | .handOff => True

/-- Whether there are timestamps for the times of a job and of its draft. -/
structure HasTimestamps (w : Session) : Prop where
  job : w.job.HasTimestamps
  draft : w.draft.job.HasTimestamps

/-- Whether a job is handed over only while there are timestamps for its times. -/
def HandsOverTimed (w : Session) : List Step → Prop
  | [] => True
  | s :: ss => (s = .handOff → w.job.HasTimestamps) ∧ (w.perform s).2.HandsOverTimed ss

variable {w : Session} {s : Step} {ss : List Step}

theorem hasTimestamps_start {j : Job} (h : j.HasTimestamps) : (start j).HasTimestamps := ⟨h, h⟩

theorem hasTimestamps_commit {d : Draft} {now : Instant} (h : d.job.HasTimestamps)
    (hnow : now.HasTimestamp) : (d.commit now).HasTimestamps := by
  refine ⟨h.created, ?_⟩
  change (max now d.job.lastUpdate).HasTimestamp
  rcases Instant.max_eq_or now d.job.lastUpdate with hmax | hmax
  · rw [hmax]
    exact hnow
  · rw [hmax]
    exact h.lastUpdate

theorem HasTimestamps.perform (h : w.HasTimestamps) (hs : s.HasTimestamp) :
    (w.perform s).2.HasTimestamps := by
  cases s with
  | call c =>
    simp only [Session.perform]
    split
    · next d hd =>
      have hof := (Draft.IsOf.refl w.draft).call hd
      refine ⟨h.job, ?_, ?_⟩
      · rw [hof.created]
        exact h.draft.created
      · rw [hof.lastUpdate]
        exact h.draft.lastUpdate
    · exact hasTimestamps_start h.job
  | commit now => exact hasTimestamps_start (hasTimestamps_commit h.draft hs)
  | advance s policy now =>
    simp only [Session.perform]
    split
    · next j hj =>
      rw [Job.advance_eq] at hj
      obtain ⟨auth, -, rfl⟩ := Except.map_eq_ok_iff.1 hj
      exact hasTimestamps_start (hasTimestamps_commit ⟨h.job.created, h.job.lastUpdate⟩ hs)
    · exact h
  | restart => exact hasTimestamps_start h.job
  | handOff =>
    rw [perform_handOff h.job]
    exact h

theorem HasTimestamps.handsOverTimed (h : w.HasTimestamps) (hss : ∀ s ∈ ss, s.HasTimestamp) :
    w.HandsOverTimed ss := by
  induction ss generalizing w with
  | nil => trivial
  | cons s ss ih =>
    obtain ⟨hs, hss⟩ := List.forall_mem_cons.1 hss
    exact ⟨fun _ => h.job, ih (h.perform hs) hss⟩

theorem handsOverTimed_append {before between : List Step} :
    w.HandsOverTimed (before ++ between) ↔
      w.HandsOverTimed before ∧ (w.after before).HandsOverTimed between := by
  induction before generalizing w with
  | nil => exact (and_iff_right trivial).symm
  | cons s before ih => rw [List.cons_append, HandsOverTimed, HandsOverTimed, ih, and_assoc, after_cons]

/-- The other steps of the work have the same outcomes and lead to the same jobs, wherever in between
the job is handed over while its times have timestamps. -/
theorem trace_filter_handOff (h : w.HandsOverTimed ss) :
    (w.trace ss).filter (·.1 ≠ .handOff) = w.trace (ss.filter (· ≠ .handOff)) ∧
      w.after ss = w.after (ss.filter (· ≠ .handOff)) := by
  induction ss generalizing w with
  | nil => exact ⟨rfl, rfl⟩
  | cons s ss ih =>
    obtain ⟨htimed, hrest⟩ := h
    obtain ⟨htrace, hafter⟩ := ih hrest
    by_cases hs : s = .handOff
    · subst hs
      have hsame := perform_handOff (htimed rfl)
      rw [hsame] at htrace hafter
      rw [trace_cons, after_cons, hsame, List.filter_cons_of_neg (by simp),
        List.filter_cons_of_neg (by simp)]
      exact ⟨htrace, hafter⟩
    · rw [trace_cons, after_cons, List.filter_cons_of_pos (by simpa using hs),
        List.filter_cons_of_pos (by simpa using hs), htrace, trace_cons, after_cons]
      exact ⟨rfl, hafter⟩

theorem outcome_of_mem_trace {outcome : Outcome} {j : Job} (h : w.HandsOverTimed ss)
    (hmem : (.handOff, outcome, j) ∈ w.trace ss) : outcome = .done := by
  induction ss generalizing w with
  | nil => cases hmem
  | cons s ss ih =>
    obtain ⟨htimed, hrest⟩ := h
    rw [trace_cons] at hmem
    rcases List.mem_cons.1 hmem with heq | hmem
    · have hs : .handOff = s := congrArg (·.1) heq
      have houtcome : outcome = (w.perform s).1 := congrArg (·.2.1) heq
      rw [houtcome, ← hs, perform_handOff (htimed hs.symm)]
    · exact ih hrest hmem

/-- A job that was created in a leap second inside of a minute has other times when it is handed
over. -/
theorem after_handOff_insideMinute : (start (.create default Job.insideMinute)).after [.handOff]
    = ⟨.create default Job.halfPast, (Job.create default Job.insideMinute).draft⟩ := by
  have hread : Job.ofText (Job.create default Job.insideMinute).toText
      = .ok (.create default Job.halfPast) :=
    Job.ofText_toText_eq_ok_iff.2 (by decide)
  rw [after_cons, after_nil, perform]
  change (receive _ (Job.ofText (Job.create default Job.insideMinute).toText)).2 = _
  rw [hread]
  rfl

end Session

end EscrowLedger
