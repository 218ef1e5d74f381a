import EscrowLedger.Proofs.Escrow.Authorization

/-!
# Setting artifacts one after the other

Submissions are filled artifact by artifact: from options, from the keys of a record, in whatever
order each of these has. What a submission holds in the end is told from the assignments alone. Each
artifact has the last text that was assigned to it, or what it had before if there was none, and
nothing else has changed. So the order matters only among the texts for one artifact, and taking an
artifact out afterwards leaves the others where they are.

## Main definitions

* `Artifact.lastText?` — the last text that assignments give to an artifact.
* `Submission.assignments` — the texts that are there for some artifacts, as assignments.

## Main statements

* `Submission.get_setAll` — what a submission holds after assignments.
* `Submission.setAll_comm` — assignments to different artifacts commute.
* `Submission.setAll_assignments` — a submission is given by its texts, in whatever order they are
  set.
* `Submission.text_take_eq_some_iff` — what is taken out of a submission.
-/

namespace EscrowLedger

-- ════════════════════════════════════════════════════════════════════════
-- Assignments
-- ════════════════════════════════════════════════════════════════════════

namespace Artifact

/-- The last text that assignments give to an artifact, if there is one. -/
def lastText? (a : Artifact) (ts : List (Artifact × String)) : Option String :=
  ((ts.filter (·.1 = a)).map (·.2)).getLast?

theorem lastText?_append (a : Artifact) (ts us : List (Artifact × String)) :
    a.lastText? (ts ++ us) = (a.lastText? us).or (a.lastText? ts) := by
  rw [lastText?, List.filter_append, List.map_append, List.getLast?_append]
  rfl

theorem lastText?_singleton (a b : Artifact) (text : String) :
    a.lastText? [(b, text)] = if b = a then some text else none := by
  by_cases hb : b = a
  · simp [lastText?, hb]
  · simp [lastText?, hb]

theorem lastText?_cons (a b : Artifact) (text : String) (ts : List (Artifact × String)) :
    a.lastText? ((b, text) :: ts) = (a.lastText? ts).or (if b = a then some text else none) := by
  rw [← lastText?_singleton, ← lastText?_append]
  rfl

theorem lastText?_eq_none_iff {a : Artifact} {ts : List (Artifact × String)} :
    a.lastText? ts = none ↔ ∀ t ∈ ts, t.1 ≠ a := by
  rw [lastText?, List.getLast?_eq_none_iff, List.map_eq_nil_iff, List.filter_eq_nil_iff]
  simp only [decide_eq_true_eq, ne_eq]

end Artifact

namespace Submission

/-- The texts that are there for some artifacts, assigned in the order of the artifacts. -/
def assignments (f : Artifact → Option String) (as : List Artifact) : List (Artifact × String) :=
  as.filterMap fun a => (f a).map (a, ·)

theorem assignments_cons (f : Artifact → Option String) (b : Artifact) (as : List Artifact) :
    assignments f (b :: as) = ((f b).map (b, ·)).toList ++ assignments f as := by
  rw [assignments, List.filterMap_cons]
  cases f b <;> rfl

theorem lastText?_assignments (f : Artifact → Option String) (as : List Artifact) (a : Artifact) :
    a.lastText? (assignments f as) = if a ∈ as then f a else none := by
  induction as with
  | nil => rfl
  | cons b as ih =>
    have hhead : a.lastText? ((f b).map (b, ·)).toList = if b = a then f b else none := by
      cases f b with
      | none =>
        rw [ite_self]
        rfl
      | some text => exact a.lastText?_singleton b text
    rw [assignments_cons, Artifact.lastText?_append, hhead, ih]
    by_cases hb : b = a
    · subst hb
      rw [if_pos rfl, if_pos List.mem_cons_self]
      split
      · exact Option.or_self
      · exact Option.none_or
    · have hmem : a ∈ b :: as ↔ a ∈ as := by rw [List.mem_cons, or_iff_right (Ne.symm hb)]
      simp only [hmem, if_neg hb, Option.or_none]

-- ════════════════════════════════════════════════════════════════════════
-- What a submission holds after assignments
-- ════════════════════════════════════════════════════════════════════════

variable {s : Submission} {ts us : List (Artifact × String)}

theorem setAll_append (s : Submission) (ts us : List (Artifact × String)) :
    s.setAll (ts ++ us) = (s.setAll ts).setAll us := List.foldl_append

@[simp] theorem stage_setAll (s : Submission) (ts : List (Artifact × String)) :
    (s.setAll ts).stage = s.stage := by
  induction ts generalizing s with
  | nil => rfl
  | cons t ts ih => exact (ih _).trans (stage_put s t.1 _)

/-- An artifact has the last text that was assigned to it, or else what it had before. -/
theorem get_setAll (s : Submission) (ts : List (Artifact × String)) (a : Artifact) :
    (s.setAll ts).get a = (a.lastText? ts).or (s.get a) := by
  induction ts generalizing s with
  | nil => rfl
  | cons t ts ih =>
    obtain ⟨b, text⟩ := t
    have hhead : (s.set b text).get a = (if b = a then some text else none).or (s.get a) := by
      rw [get_set]
      by_cases hb : b = a
      · rw [if_pos hb.symm, if_pos hb, Option.some_or]
      · rw [if_neg (Ne.symm hb), if_neg hb, Option.none_or]
    calc (s.setAll ((b, text) :: ts)).get a
        = (a.lastText? ts).or ((s.set b text).get a) := ih _
      _ = (a.lastText? ((b, text) :: ts)).or (s.get a) := by
        rw [hhead, Artifact.lastText?_cons, Option.or_assoc]

/-- Nothing counts but the last text for each artifact. -/
theorem setAll_congr (h : ∀ a : Artifact, a.lastText? ts = a.lastText? us) :
    s.setAll ts = s.setAll us := by
  refine ext_get ?_ fun a => ?_
  · rw [stage_setAll, stage_setAll]
  · rw [get_setAll, get_setAll, h]

/-- Assignments to different artifacts commute. -/
theorem setAll_comm (h : ∀ t ∈ ts, ∀ u ∈ us, t.1 ≠ u.1) :
    (s.setAll ts).setAll us = (s.setAll us).setAll ts := by
  rw [← setAll_append, ← setAll_append]
  refine setAll_congr fun a => ?_
  rw [Artifact.lastText?_append, Artifact.lastText?_append]
  -- One of the two lists has no text for the artifact.
  by_cases hts : ∀ t ∈ ts, t.1 ≠ a
  · rw [Artifact.lastText?_eq_none_iff.2 hts, Option.or_none, Option.none_or]
  · obtain ⟨t, ht, rfl⟩ : ∃ t ∈ ts, t.1 = a := by simpa using hts
    have hus : t.1.lastText? us = none :=
      Artifact.lastText?_eq_none_iff.2 fun u hu => (h t ht u hu).symm
    rw [hus, Option.or_none, Option.none_or]

-- ════════════════════════════════════════════════════════════════════════
-- Submissions that are filled from texts
-- ════════════════════════════════════════════════════════════════════════

/-- Setting artifacts where there is a text for them is a run of assignments. -/
theorem foldl_elim_set (f : Artifact → Option String) (as : List Artifact) (s : Submission) :
    as.foldl (fun s a => (f a).elim s (s.set a)) s = s.setAll (assignments f as) := by
  rw [setAll, assignments, List.foldl_filterMap]
  congr
  funext s a
  cases f a <;> rfl

theorem get_setAll_assignments (s : Submission) (f : Artifact → Option String)
    (as : List Artifact) (a : Artifact) : (s.setAll (assignments f as)).get a
      = if a ∈ as then (f a).or (s.get a) else s.get a := by
  rw [get_setAll, lastText?_assignments]
  split
  · rfl
  · rw [Option.none_or]

/-- A submission is given by its texts, in whatever order they are set. -/
theorem setAll_assignments (stage : Stage) (f : Artifact → Option String) {as : List Artifact}
    (h : ∀ a, a ∈ as) : (empty stage).setAll (assignments f as) = ofTexts stage f := by
  refine ext_get ?_ fun a => ?_
  · rw [stage_setAll]
    rfl
  · rw [get_setAll_assignments, if_pos (h a), get_empty, Option.or_none, get_ofTexts]

-- ════════════════════════════════════════════════════════════════════════
-- Taking artifacts out
-- ════════════════════════════════════════════════════════════════════════

theorem stage_take (s : Submission) (a : Artifact) : (s.take a).2.stage = s.stage :=
  stage_put s a none

/-- Taking an artifact out leaves the others where they are. -/
theorem get_take (s : Submission) (a b : Artifact) :
    (s.take a).2.get b = if b = a then none else s.get b := get_put s a b none

/-- An artifact that is taken out has its text, unless this is blank. -/
theorem text_take_eq_some_iff {a : Artifact} {text : String} :
    (s.take a).1.map (·.text) = some text ↔ s.get a = some text ∧ Text.isBlank text = false := by
  rw [take, Option.map_eq_some_iff]
  constructor
  · rintro ⟨content, htaken, rfl⟩
    obtain ⟨given, hgiven, hsealed⟩ := Option.bind_eq_some_iff.1 htaken
    rw [hgiven, Sealed.ofText?_eq_some_iff.1 hsealed]
    exact ⟨rfl, content.not_blank⟩
  · rintro ⟨hgiven, hblank⟩
    refine ⟨⟨text, hblank⟩, ?_, rfl⟩
    rw [hgiven, Option.bind_some]
    exact Sealed.ofText?_eq_some_iff.2 rfl

end Submission

end EscrowLedger
