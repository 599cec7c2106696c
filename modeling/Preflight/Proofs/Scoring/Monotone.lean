import Mathlib.Data.List.Forall2
import Preflight.Scoring.Score

/-!
# Better on every axis, no lower score

Scores are weighted means with positive weights, rounded. A file that is no worse on any axis has no
lower score, and a project none of whose files has a lower score has no lower mean. What is known
about the tests of a file bears on one axis only, and having tests is better there.

## Main results

* `weightedScore_mono`, `repoScore_mono`: means of higher scores.
* `scoreFile_mono_coverage`: a file that has tests as well.
-/

namespace Preflight

theorem fdiv_le_fdiv {a b c : Int} (hc : 0 < c) (h : a ≤ b) : a.fdiv c ≤ b.fdiv c := by
  have hc' := Int.le_of_lt hc
  rw [Int.fdiv_eq_ediv_of_nonneg _ hc', Int.fdiv_eq_ediv_of_nonneg _ hc']
  exact Int.ediv_le_ediv hc h

/-- **Better on every axis, no lower score.** -/
theorem weightedScore_mono {s s' : SignalScores} (h : ∀ axis, s.on axis ≤ s'.on axis) :
    weightedScore s ≤ weightedScore s' := by
  refine fdiv_le_fdiv (by decide) (Int.add_le_add_right ?_ 50)
  have hfunctions := h .functionLength
  have hcoupling := h .coupling
  have htests := h .testCoverage
  have hcomments := h .commentDensity
  have hsize := h .fileSize
  simp only [Axis.all, Axis.weight, List.map_cons, List.map_nil, List.foldr_cons, List.foldr_nil]
  omega

theorem coverageScore_mono {hasTest hasTest' : Bool} (h : hasTest = true → hasTest' = true) :
    coverageScore hasTest ≤ coverageScore hasTest' := by
  cases hasTest with
  | false =>
    cases hasTest' with
    | false => exact Int.le_refl _
    | true => decide
  | true => exact Int.le_of_eq (congrArg coverageScore (h rfl).symm)

/-- **Tests make no score lower.** -/
theorem scoreFile_mono_coverage (facts : FileFacts) {coverage : TestCoverage}
    (h : facts.coverage.hasTest = true → coverage.hasTest = true) :
    (scoreFile facts).score ≤ (scoreFile { facts with coverage }).score := by
  rw [scoreFile, scoreFile]
  by_cases hreadable : facts.readable = true
  · rw [if_pos hreadable, if_pos hreadable]
    refine weightedScore_mono fun axis => ?_
    rw [signalScores, signalScores]
    by_cases hblank : facts.blank = true
    · exact Int.le_of_eq (by rw [if_pos hblank, if_pos hblank])
    · rw [if_neg hblank, if_neg hblank]
      cases axis with
      | testCoverage => exact coverageScore_mono h
      | functionLength | coupling | commentDensity | fileSize => exact Int.le_refl _
  · exact Int.le_of_eq (by rw [if_neg hreadable, if_neg hreadable])

/-- **A mean of higher scores** is no lower. -/
theorem repoScore_mono {xs ys : List Int} (h : List.Forall₂ (· ≤ ·) xs ys) :
    repoScore xs ≤ repoScore ys := by
  have hlength : xs.length = ys.length := h.length_eq
  have hsum : xs.foldr (· + ·) 0 ≤ ys.foldr (· + ·) 0 := by
    induction h with
    | nil => exact Int.le_refl _
    | cons hxy _ ih => exact Int.add_le_add hxy (ih (Nat.succ.inj hlength))
  rw [repoScore, repoScore]
  cases h with
  | nil => exact Int.le_refl _
  | @cons x y xs ys _ _ =>
    rw [if_neg (by simp), if_neg (by simp), hlength]
    refine fdiv_le_fdiv (by simp only [List.length_cons]; omega) ?_
    omega

end Preflight
