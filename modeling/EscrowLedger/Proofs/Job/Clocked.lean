import EscrowLedger.Instant.Clock
import EscrowLedger.Proofs.Instant.Step
import EscrowLedger.Proofs.Job.Chain

/-!
# Jobs that are changed by the clock

A clock is moved by hand, and a job is changed in between; the time of every change is what the clock
reads. A move that would leave the range of instants fails and the clock stays. Any other move goes
on, goes back or stays, as its sign says, also in and out of leap seconds. So if the clock was not
behind the job, never goes back, and goes on before each change that is granted, then every change is
later than the one before.

## Main definitions

* `Clocked`, `Clocked.Step` — a clock and a job, and what is done to them.
* `Clocked.updates` — when the job was changed.
* `Clocked.IsPaced` — whether the clock goes on before each change and never goes back.

## Main statements

* `Clock.moves_advance` — what a move of the clock does.
* `Clocked.IsAhead.after_step`, `Clocked.IsAhead.pairwise_updates` — one step, and all steps.
* `Clocked.keeps_order` — moves of the clock and changes by it.
-/

namespace EscrowLedger

-- ════════════════════════════════════════════════════════════════════════
-- Moves of the clock
-- ════════════════════════════════════════════════════════════════════════

namespace Clock

/-- Whether a move ends in a second that has instants. -/
def Reaches (c : Clock) (delta : Int) : Prop :=
  firstSecond ≤ (c.now.landing delta).1 ∧ (c.now.landing delta).1 ≤ lastSecond

instance (c : Clock) (delta : Int) : Decidable (c.Reaches delta) :=
  inferInstanceAs (Decidable (_ ∧ _))

/-- What a move does. -/
inductive Moves (c : Clock) (delta : Int) : Except ClockError Unit × Clock → Prop
  /-- The clock reads a time in the order of the sign. -/
  | moved {c' : Clock} (reaches : c.Reaches delta) (follows : c.now.FollowsBy delta c'.now) :
    c.Moves delta (.ok (), c')
  /-- The move would leave the range, so the clock reads what it read. -/
  | stays (leaves : ¬c.Reaches delta) : c.Moves delta (.error .outOfRange, c)

theorem moves_advance (c : Clock) (delta : Int) : c.Moves delta (c.advance delta) := by
  rw [advance]
  cases h : c.now.step delta with
  | some now =>
    refine .moved ?_ (Instant.followsBy_of_step h)
    have hrange := mt Instant.step_eq_none_iff.2 (h ▸ Option.some_ne_none now)
    rw [Reaches]
    omega
  | none =>
    refine .stays fun hreaches => ?_
    have hrange := Instant.step_eq_none_iff.1 h
    rw [Reaches] at hreaches
    omega

end Clock

-- ════════════════════════════════════════════════════════════════════════
-- Changes by the clock
-- ════════════════════════════════════════════════════════════════════════

/-- A job, and the clock that tells when it is changed. -/
structure Clocked where
  clock : Clock
  job : Job
deriving DecidableEq

namespace Clocked

inductive Step where
  /-- Moves the clock, back if the number is negative. -/
  | wait (delta : Int)
  /-- Makes one submission to the job. -/
  | advance (s : Submission) (policy : Policy)
  /-- Makes any calls to a draft of the job and commits it. -/
  | change (cs : List Draft.Call)
deriving DecidableEq

/-- The changed job, if a step is a change that is granted. -/
def changed? (w : Clocked) : Step → Option Job
  | .wait _ => none
  | .advance s policy => (w.job.advance s policy w.clock.now).toOption
  | .change cs => (w.job.change cs w.clock.now).toOption

def clockAfter (w : Clocked) : Step → Clock
  | .wait delta => (w.clock.advance delta).2
  | .advance _ _ | .change _ => w.clock

/-- The clock and the job after a step. A change that is refused and a move that fails leave both. -/
def perform (w : Clocked) (s : Step) : Clocked := ⟨w.clockAfter s, (w.changed? s).getD w.job⟩

/-- The times of the changes that are granted, as the job records them. -/
def updates (w : Clocked) : List Step → List Instant
  | [] => []
  | s :: ss => ((w.changed? s).map (·.lastUpdate)).toList ++ (w.perform s).updates ss

/-- Whether a step moves the clock, and on. -/
def MovesOn (w : Clocked) : Step → Prop
  | .wait delta => 0 < delta ∧ w.clock.Reaches delta
  | .advance _ _ | .change _ => False

instance (w : Clocked) : DecidablePred w.MovesOn
  | .wait delta => inferInstanceAs (Decidable (0 < delta ∧ w.clock.Reaches delta))
  | .advance _ _ | .change _ => inferInstanceAs (Decidable False)

/-- Whether a step moves the clock, and back. -/
def MovesBack (w : Clocked) : Step → Prop
  | .wait delta => delta < 0 ∧ w.clock.Reaches delta
  | .advance _ _ | .change _ => False

instance (w : Clocked) : DecidablePred w.MovesBack
  | .wait delta => inferInstanceAs (Decidable (delta < 0 ∧ w.clock.Reaches delta))
  | .advance _ _ | .change _ => inferInstanceAs (Decidable False)

/-- Whether the clock never goes back and goes on before each change that is granted. It may already
have gone on since the last change. -/
def IsPaced (w : Clocked) (movedOn : Prop) : List Step → Prop
  | [] => True
  | s :: ss => ¬w.MovesBack s ∧ (w.changed? s ≠ none → movedOn) ∧
      (w.perform s).IsPaced (w.MovesOn s ∨ movedOn ∧ w.changed? s = none) ss

instance decidableIsPaced (w : Clocked) (movedOn : Prop) [Decidable movedOn] (ss : List Step) :
    Decidable (w.IsPaced movedOn ss) :=
  match ss with
  | [] => inferInstanceAs (Decidable True)
  | s :: ss =>
    have := (w.perform s).decidableIsPaced (w.MovesOn s ∨ movedOn ∧ w.changed? s = none) ss
    inferInstanceAs (Decidable (¬w.MovesBack s ∧ (w.changed? s ≠ none → movedOn) ∧ _))

variable {w : Clocked} {s : Step} {ss : List Step} {movedOn : Prop}

theorem lastUpdate_of_changed? {j : Job} (h : w.changed? s = some j) :
    j.lastUpdate = max w.clock.now w.job.lastUpdate := by
  cases s with
  | wait delta => cases h
  | advance s policy =>
    have hok := Except.toOption_eq_some_iff.1 h
    rw [Job.advance_eq_change] at hok
    exact (Job.becomesBy_of_change hok).lastUpdate
  | change cs => exact (Job.becomesBy_of_change (Except.toOption_eq_some_iff.1 h)).lastUpdate

theorem now_le_clockAfter (h : ¬w.MovesBack s) : w.clock.now ≤ (w.clockAfter s).now := by
  cases s with
  | wait delta =>
    have hmoves := w.clock.moves_advance delta
    rw [clockAfter]
    generalize w.clock.advance delta = result at hmoves ⊢
    cases hmoves with
    | moved hreaches hfollows =>
      rcases Int.lt_trichotomy delta 0 with hneg | hzero | hpos
      · exact absurd ⟨hneg, hreaches⟩ h
      · rw [hfollows.same hzero]
        exact Instant.le_refl _
      · exact Instant.le_of_lt (hfollows.later hpos)
    | stays hleaves => exact Instant.le_refl _
  | advance s policy => exact Instant.le_refl _
  | change cs => exact Instant.le_refl _

theorem now_lt_clockAfter (h : w.MovesOn s) : w.clock.now < (w.clockAfter s).now := by
  cases s with
  | wait delta =>
    have hmoves := w.clock.moves_advance delta
    rw [clockAfter]
    generalize w.clock.advance delta = result at hmoves ⊢
    cases hmoves with
    | moved hreaches hfollows => exact hfollows.later h.1
    | stays hleaves => exact absurd h.2 hleaves
  | advance s policy => exact h.elim
  | change cs => exact h.elim

/-- Whether the clock is not behind the job, and ahead of it if it has gone on since. -/
structure IsAhead (w : Clocked) (movedOn : Prop) : Prop where
  lastUpdate_le : w.job.lastUpdate ≤ w.clock.now
  lastUpdate_lt : movedOn → w.job.lastUpdate < w.clock.now

/-- A change that is granted by a clock that is ahead of the job gets the time of the clock. -/
theorem IsAhead.lastUpdate_eq {j : Job} (h : w.IsAhead movedOn) (hmoved : movedOn)
    (hchanged : w.changed? s = some j) : j.lastUpdate = w.clock.now := by
  rw [lastUpdate_of_changed? hchanged, Instant.max_def,
    if_neg (Instant.not_le.2 (h.lastUpdate_lt hmoved))]

theorem IsAhead.after_step (h : w.IsAhead movedOn) (hback : ¬w.MovesBack s)
    (hpaced : w.changed? s ≠ none → movedOn) :
    (w.perform s).IsAhead (w.MovesOn s ∨ movedOn ∧ w.changed? s = none) := by
  have hclock := now_le_clockAfter hback
  cases hchanged : w.changed? s with
  | none =>
    have hjob : (w.perform s).job = w.job := by rw [perform, hchanged, Option.getD_none]
    refine ⟨?_, ?_⟩
    · rw [hjob]
      exact Instant.le_trans h.lastUpdate_le hclock
    · rw [hjob]
      rintro (hon | ⟨hmoved, -⟩)
      · exact Instant.lt_of_le_of_lt h.lastUpdate_le (now_lt_clockAfter hon)
      · exact Instant.lt_of_lt_of_le (h.lastUpdate_lt hmoved) hclock
  | some j =>
    have hmoved := hpaced (hchanged ▸ Option.some_ne_none j)
    have hjob : (w.perform s).job = j := by rw [perform, hchanged, Option.getD_some]
    refine ⟨?_, ?_⟩
    · rw [hjob, h.lastUpdate_eq hmoved hchanged]
      exact hclock
    · rintro (hon | ⟨-, hnone⟩)
      · rw [hjob, h.lastUpdate_eq hmoved hchanged]
        exact now_lt_clockAfter hon
      · cases hnone

/-- Changes by a clock that goes on before each of them are each later than the one before. -/
theorem IsAhead.pairwise_updates (h : w.IsAhead movedOn) (hpaced : w.IsPaced movedOn ss) :
    (w.job.lastUpdate :: w.updates ss).Pairwise (· < ·) := by
  induction ss generalizing w movedOn with
  | nil => exact List.pairwise_singleton _ _
  | cons s ss ih =>
    obtain ⟨hback, hmoved, hrest⟩ := hpaced
    have hlater := ih (h.after_step hback hmoved) hrest
    rw [updates]
    cases hchanged : w.changed? s with
    | none =>
      have hjob : (w.perform s).job = w.job := by rw [perform, hchanged, Option.getD_none]
      rw [hjob] at hlater
      exact hlater
    | some j =>
      have hjob : (w.perform s).job = j := by rw [perform, hchanged, Option.getD_some]
      have hfirst : w.job.lastUpdate < j.lastUpdate := by
        have hmoved := hmoved (hchanged ▸ Option.some_ne_none j)
        rw [h.lastUpdate_eq hmoved hchanged]
        exact h.lastUpdate_lt hmoved
      rw [hjob] at hlater
      refine List.pairwise_cons.2 ⟨fun t ht => ?_, hlater⟩
      rcases List.mem_cons.1 ht with rfl | ht
      · exact hfirst
      · exact Instant.lt_of_lt_of_le hfirst (Instant.le_of_lt (List.rel_of_pairwise_cons hlater ht))

/-- A move of the clock fails, and the clock stays, exactly if it would leave the range of instants;
any other move leads to a later, an earlier or the same instant as its sign says. So a job whose last
change the clock is not behind, and that is changed only after the clock has gone on, is changed at
ever later times. -/
theorem keeps_order :
    (∀ (c : Clock) (delta : Int), c.Moves delta (c.advance delta)) ∧
    ∀ (w : Clocked) (ss : List Step), w.job.lastUpdate ≤ w.clock.now →
      w.IsPaced False ss → (w.job.lastUpdate :: w.updates ss).Pairwise (· < ·) := by
  refine ⟨Clock.moves_advance, fun w ss hstart hpaced => ?_⟩
  have hahead : w.IsAhead False := ⟨hstart, False.elim⟩
  exact hahead.pairwise_updates hpaced

/-- The middle of a leap second. -/
def leap : Instant := ⟨1483228799, 1500000000, by decide, by decide, by decide⟩

/-- Two changes, the first one just after the leap second. Before the second one a move fails that
would leave the range, and a submission is refused. -/
def acrossLeap : List Step :=
  [.wait 600000000, .advance (Authorization.initial (some Job.firstKey)).toSubmission .lenient,
    .wait (-9000000000000000000000000), .advance (.empty .initial) .forwardOnly, .wait 1,
    .change [.moveTo .complete]]

/-- The changes of a job that was created in a leap second. -/
theorem keeps_order_acrossLeap :
    (updates ⟨⟨leap⟩, .create default leap⟩ acrossLeap).map (fun t => (t.second, t.nano))
      = [(1483228800, 100000000), (1483228800, 100000001)] ∧
    (leap :: updates ⟨⟨leap⟩, .create default leap⟩ acrossLeap).Pairwise (· < ·) := by
  refine ⟨by decide +kernel, ?_⟩
  exact keeps_order.2 ⟨⟨leap⟩, .create default leap⟩ acrossLeap (Instant.le_refl leap)
    (by decide +kernel)

end Clocked

end EscrowLedger
