import Mathlib.Algebra.Order.BigOperators.Group.List
import Mathlib.Data.Rat.Floor
import Mathlib.Tactic.FieldSimp
import Mathlib.Tactic.Ring
import Preflight.Scoring.Score

/-!
# The score of a project is a rounded mean

The score of a project is computed on whole numbers. It is the mean of the scores of its files,
rounded to the nearest whole number, a half up, and so it lies between the lowest of these scores
and the highest.

## Main results

* `repoScore_eq_floor`: the rounded mean, exactly.
* `le_repoScore`, `repoScore_le`: what bounds all scores bounds the mean.
-/

namespace Preflight

variable {scores : List Int}

theorem repoScore_of_ne_nil (h : scores ≠ []) :
    repoScore scores = (2 * scores.sum + scores.length) / (2 * scores.length) := by
  rw [repoScore, if_neg (by simpa using h), Int.fdiv_eq_ediv_of_nonneg _ (by omega), List.sum]

/-- **The score of a project is the mean** of the scores of its files, a half rounded up. -/
theorem repoScore_eq_floor (h : scores ≠ []) :
    repoScore scores = ⌊(scores.sum : ℚ) / scores.length + 1 / 2⌋ := by
  have hlength : (scores.length : ℚ) ≠ 0 := by
    rw [Nat.cast_ne_zero]
    exact fun hzero => h (List.length_eq_zero_iff.mp hzero)
  have hmean : (scores.sum : ℚ) / scores.length + 1 / 2 =
      ((2 * scores.sum + scores.length : ℤ) : ℚ) / ((2 * scores.length : ℕ) : ℚ) := by
    push_cast
    field_simp
  rw [hmean, Rat.floor_intCast_div_natCast, repoScore_of_ne_nil h]
  push_cast
  rfl

/-- A mean is no lower than what no score is lower than. -/
theorem le_repoScore (h : scores ≠ []) {low : Int} (hlow : ∀ s ∈ scores, low ≤ s) :
    low ≤ repoScore scores := by
  have hlength : 0 < scores.length := List.length_pos_iff.mpr h
  have hsum : scores.length * low ≤ scores.sum := by
    have := List.card_nsmul_le_sum scores low hlow
    rwa [nsmul_eq_mul] at this
  rw [repoScore_of_ne_nil h, Int.le_ediv_iff_mul_le (by omega)]
  calc low * (2 * scores.length) = 2 * (scores.length * low) := by ring
    _ ≤ 2 * scores.sum := by omega
    _ ≤ 2 * scores.sum + scores.length := by omega

/-- A mean is no higher than what no score is higher than. -/
theorem repoScore_le (h : scores ≠ []) {high : Int} (hhigh : ∀ s ∈ scores, s ≤ high) :
    repoScore scores ≤ high := by
  have hlength : 0 < scores.length := List.length_pos_iff.mpr h
  have hsum : scores.sum ≤ scores.length * high := by
    have := List.sum_le_card_nsmul scores high hhigh
    rwa [nsmul_eq_mul] at this
  rw [repoScore_of_ne_nil h, ← Int.lt_add_one_iff, Int.ediv_lt_iff_lt_mul (by omega)]
  calc 2 * scores.sum + scores.length ≤ 2 * (scores.length * high) + scores.length := by omega
    _ < 2 * (scores.length * high) + 2 * scores.length := by omega
    _ = (high + 1) * (2 * scores.length) := by ring

end Preflight
