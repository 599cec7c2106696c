import Preflight.Proofs.Scoring.Monotone

/-!
# What a file is told first

The weakest axis of a file names its issue, the first axis where several are as weak, and a file
that is clean there has none. The score of a file is a mean, so a file that is clean on every axis
has a clean score: whenever the score is lower, some axis is, and the file has an issue.

## Main definitions

* `WeakestOf`: the first of some axes with the lowest score.
* `TopIssue`: what a file is told first, whether it can be read or not.

## Main results

* `weakestOf_worstAxis`: the weakest axis of a file.
* `exists_on_lt_cleanThreshold`: a score that is not clean has an axis that is not.
* `exists_topIssue`: every file without a clean score has an issue.
-/

namespace Preflight

/-! ### The weakest axis -/

/-- An axis has the lowest score of some, and those before it have higher ones. -/
def WeakestOf (s : SignalScores) (axes : List Axis) (axis : Axis) : Prop :=
  ∃ earlier later, axes = earlier ++ axis :: later ∧
    (∀ a ∈ earlier, s.on axis < s.on a) ∧ ∀ a ∈ later, s.on axis ≤ s.on a

section WeakestOf

variable {s : SignalScores} {axes : List Axis} {axis : Axis}

theorem WeakestOf.on_le (h : WeakestOf s axes axis) {a : Axis} (ha : a ∈ axes) :
    s.on axis ≤ s.on a := by
  obtain ⟨earlier, later, rfl, hearlier, hlater⟩ := h
  rcases List.mem_append.mp ha with ha | ha
  · exact Int.le_of_lt (hearlier a ha)
  · rcases List.mem_cons.mp ha with rfl | ha
    · exact Int.le_refl _
    · exact hlater a ha

/-- One more axis is the weakest only if it is weaker than all before. -/
theorem WeakestOf.concat (h : WeakestOf s axes axis) (next : Axis) :
    WeakestOf s (axes ++ [next]) (if s.on next < s.on axis then next else axis) := by
  by_cases hlt : s.on next < s.on axis
  · rw [if_pos hlt]
    refine ⟨axes, [], rfl, fun a ha => ?_, fun a ha => absurd ha List.not_mem_nil⟩
    exact Int.lt_of_lt_of_le hlt (h.on_le ha)
  · rw [if_neg hlt]
    obtain ⟨earlier, later, rfl, hearlier, hlater⟩ := h
    refine ⟨earlier, later ++ [next], by simp, hearlier, fun a ha => ?_⟩
    rcases List.mem_append.mp ha with ha | ha
    · exact hlater a ha
    · rw [List.mem_singleton.mp ha]
      exact Int.not_lt.mp hlt

theorem WeakestOf.foldl (rest : List Axis) : ∀ {axes : List Axis} {axis : Axis},
    WeakestOf s axes axis → WeakestOf s (axes ++ rest)
      (rest.foldl (fun worst axis => if s.on axis < s.on worst then axis else worst) axis) := by
  induction rest with
  | nil =>
    intro axes axis h
    rwa [List.append_nil]
  | cons next rest ih =>
    intro axes axis h
    rw [List.foldl_cons, ← List.singleton_append, ← List.append_assoc]
    exact ih (h.concat next)

/-- **The weakest axis** is the first of those with the lowest score. -/
theorem weakestOf_worstAxis (s : SignalScores) : WeakestOf s Axis.all (worstAxis s) := by
  have hfirst : WeakestOf s [.functionLength] .functionLength :=
    ⟨[], [], rfl, fun a ha => absurd ha List.not_mem_nil, fun a ha => absurd ha List.not_mem_nil⟩
  -- the fold starts from the first axis and comes to it once more, to no effect
  have hfold := hfirst.foldl [.coupling, .testCoverage, .commentDensity, .fileSize]
  rw [worstAxis, Axis.all, List.foldl_cons, if_neg (Int.lt_irrefl _)]
  exact hfold

end WeakestOf

/-! ### Scores that are not clean -/

theorem Axis.mem_all (axis : Axis) : axis ∈ Axis.all := by
  cases axis <;> decide

/-- **A score that is not clean has an axis that is not.** -/
theorem exists_on_lt_cleanThreshold {s : SignalScores} (h : weightedScore s < cleanThreshold) :
    ∃ axis, s.on axis < cleanThreshold := by
  by_contra hclean
  have hle : ∀ axis, cleanThreshold ≤ s.on axis := fun axis =>
    Int.not_lt.mp fun hlt => hclean ⟨axis, hlt⟩
  -- a file at the threshold on every axis has the threshold as its score
  have hmean : weightedScore ⟨70, 70, 70, 70, 70⟩ ≤ weightedScore s :=
    weightedScore_mono fun axis => by
      cases axis with
      | functionLength | coupling | testCoverage | commentDensity | fileSize => exact hle _
  have hthreshold : weightedScore ⟨70, 70, 70, 70, 70⟩ = cleanThreshold := by decide
  rw [hthreshold] at hmean
  exact absurd h (Int.not_lt.mpr hmean)

/-- What a file is told first: that it cannot be read, or the issue of its weakest axis. -/
inductive TopIssue (facts : FileFacts) : String → Prop
  | unreadable : facts.readable = false → TopIssue facts unreadableIssue
  | weakest (axis : Axis) : facts.readable = true →
      WeakestOf (signalScores facts) Axis.all axis →
      (signalScores facts).on axis < cleanThreshold → TopIssue facts axis.issue.1

/-- **Every file without a clean score has an issue**, and the first one named is that of its
weakest axis. -/
theorem exists_topIssue {facts : FileFacts} (h : (scoreFile facts).score < cleanThreshold) :
    ∃ issue, (scoreFile facts).issues.head? = some issue ∧ TopIssue facts issue := by
  rw [scoreFile] at h ⊢
  cases hreadable : facts.readable with
  | false => exact ⟨unreadableIssue, rfl, .unreadable hreadable⟩
  | true =>
    rw [hreadable, if_pos rfl] at h
    have hweakest := weakestOf_worstAxis (signalScores facts)
    obtain ⟨axis, haxis⟩ := exists_on_lt_cleanThreshold h
    have hlt : (signalScores facts).on (worstAxis (signalScores facts)) < cleanThreshold :=
      Int.lt_of_le_of_lt (hweakest.on_le axis.mem_all) haxis
    have htop : topIssue? (signalScores facts) = some (worstAxis (signalScores facts)).issue := by
      rw [topIssue?, if_neg (Int.not_le.mpr hlt)]
    rw [if_pos rfl]
    dsimp only
    rw [htop]
    exact ⟨_, rfl, .weakest _ hreadable hweakest hlt⟩

end Preflight
