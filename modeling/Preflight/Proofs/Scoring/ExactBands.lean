import Preflight.Proofs.Number.Separation
import Preflight.Proofs.Scoring.Bands

/-!
# Bands of rounded quotients are exact

The mean number of lines of a function and the share of comment lines are rounded before they are
compared with the cut-offs, and the cut-offs in hundredths are no numbers of sixty-four bits
themselves. Still, as long as counts stay below their limit, a rounded quotient exceeds a rounded
cut-off just if the quotient exceeds the cut-off, so the scores are those of exact comparisons of
whole numbers.

## Main results

* `exceedsWhole_iff`, `exceedsHundredths_iff`: single cut-offs.
* `functionLengthScore_eq`, `commentDensityScore_eq`: the scores on each scale.
* `bands_exact`: the scores, with the cut-offs written out.
-/

namespace Preflight

open Preflight.Source

/-! ### Single cut-offs -/

section cutoffs

variable {v : Binary64} {num den : Nat} {cutoff : Int}

/-- A rounded quotient exceeds a whole cut-off just if the quotient does. -/
theorem exceedsWhole_iff (hv : v.IsFinite) (hvalue : v.toRat = Binary64.rounded num den)
    (hden : 0 < den) (hnum : num < countLimit) (hpos : 0 < cutoff) (hcutoff : cutoff < 2 ^ 53)
    (positive : Bool) :
    exceedsWhole positive (some v) cutoff = true ↔ cutoff * den < num := by
  obtain ⟨n, rfl⟩ := Int.eq_ofNat_of_zero_le hpos.le
  have hlimit : n * den < num * 1 → n * den < 2 ^ 50 := by
    rw [Nat.mul_one]
    exact fun h => Nat.lt_trans h hnum
  rw [exceedsWhole, Binary64.exceeds_iff hv (Binary64.isFinite_ofInt _), Binary64.toRat_ofInt,
    Int.cast_natCast, ← Binary64.rounded_natCast (by omega), hvalue,
    Binary64.rounded_lt_rounded_iff (by omega) Nat.one_pos hden (by decide) hlimit, Nat.mul_one,
    ← Int.natCast_mul, Int.ofNat_lt]

/-- A rounded quotient exceeds a rounded cut-off in hundredths that is one part of a whole just if
the quotient exceeds that part. -/
theorem exceedsHundredths_iff (hv : v.IsFinite) (hvalue : v.toRat = Binary64.rounded num den)
    (hden : 0 < den) (hlimit : den < countLimit) (hpos : 0 < cutoff) (hcutoff : cutoff ∣ 100)
    (positive : Bool) :
    exceedsHundredths positive (some v) cutoff = true ↔ cutoff * den < 100 * num := by
  obtain ⟨n, rfl⟩ := Int.eq_ofNat_of_zero_le hpos.le
  obtain ⟨parts, hparts⟩ : n ∣ 100 := Int.natCast_dvd_natCast.mp hcutoff
  have hdvd : parts ∣ 100 := Dvd.intro_left n hparts.symm
  have hpartsPos : 0 < parts := Nat.pos_of_dvd_of_pos hdvd (Nat.succ_pos 99)
  have hsimple : parts ≤ 2 ^ 50 := Nat.le_trans (Nat.le_of_dvd (Nat.succ_pos 99) hdvd) (by decide)
  have hsmall : n < countLimit * 100 :=
    Nat.lt_of_le_of_lt (Nat.le_of_dvd (Nat.succ_pos 99) ⟨parts, hparts⟩) (by decide)
  obtain ⟨c, hc, hfinite, hcvalue⟩ := exists_quotient (Nat.succ_pos 99) hsmall
  have hreduced : Binary64.rounded n 100 = Binary64.rounded 1 parts :=
    Binary64.rounded_congr (Nat.succ_pos 99) hpartsPos (by rw [hparts, Nat.one_mul])
  have hrounded : exceedsHundredths positive (some v) n = v.exceeds c := by
    unfold exceedsHundredths
    rw [show Binary64.ofQuotient? n 100 = some c from hc]
  rw [hrounded, Binary64.exceeds_iff hv hfinite, hcvalue, hreduced, hvalue,
    Binary64.rounded_lt_rounded_iff Nat.one_pos hpartsPos hden hsimple fun _ => by
      rwa [Nat.one_mul]]
  have hscaled : 1 * den < num * parts ↔ n * (1 * den) < n * (num * parts) :=
    (Nat.mul_lt_mul_left (by omega)).symm
  have hproduct : n * (num * parts) = 100 * num := by
    rw [hparts]
    ring
  rw [hscaled, hproduct, Nat.one_mul]
  norm_cast

end cutoffs

/-! ### Scales -/

/-- A score depends on the cut-offs of its scale alone. -/
theorem Scale.score_congr {α : Type} {scale : Scale α} {exceeds exceeds' : α → Bool}
    (h : ∀ step ∈ scale.steps, exceeds step.1 = true ↔ exceeds' step.1 = true) :
    scale.score exceeds = scale.score exceeds' := by
  obtain ⟨steps, otherwise⟩ := scale
  induction steps with
  | nil => rfl
  | cons step rest ih =>
    obtain ⟨hstep, hrest⟩ := List.forall_mem_cons.mp h
    rw [score_cons, score_cons, Bool.eq_iff_iff.mpr hstep, ih hrest]

theorem functionLengthScale_cutoffs :
    ∀ step ∈ functionLengthScale.steps, 0 < step.1 ∧ step.1 < 2 ^ 53 := by decide

theorem commentDensityScale_cutoffs :
    ∀ step ∈ commentDensityScale.steps, 0 < step.1 ∧ step.1 ∣ 100 := by decide

/-- No function has more lines than all together. -/
theorem lineCount_le_totalFunctionLines {functions : List FunctionSpan}
    (h : ∀ f ∈ functions, 0 ≤ f.lineCount) :
    0 ≤ totalFunctionLines functions ∧
      ∀ f ∈ functions, f.lineCount ≤ totalFunctionLines functions := by
  induction functions with
  | nil => exact ⟨Int.le_refl 0, fun f hf => absurd hf List.not_mem_nil⟩
  | cons f functions ih =>
    obtain ⟨hf, hrest⟩ := List.forall_mem_cons.mp h
    obtain ⟨hlow, hhigh⟩ := ih hrest
    rw [totalFunctionLines_cons]
    refine ⟨Int.add_nonneg hf hlow, List.forall_mem_cons.mpr ⟨by omega, fun g hg => ?_⟩⟩
    have := hhigh g hg
    omega

/-- The lengths of functions have the score of their exact mean. -/
theorem functionLengthScore_eq {functions : List FunctionSpan} (hne : functions ≠ [])
    (hlines : ∀ f ∈ functions, 0 ≤ f.lineCount)
    (hlimit : totalFunctionLines functions < countLimit) :
    functionLengthScore functions =
      functionLengthScale.score
        fun cutoff => cutoff * functions.length < totalFunctionLines functions := by
  obtain ⟨hlow, hhigh⟩ := lineCount_le_totalFunctionLines hlines
  obtain ⟨v, hv, hfinite, hvalue⟩ :=
    exists_average (fun f hf => ⟨hlines f hf, Int.lt_of_le_of_lt (hhigh f hf) hlimit⟩) hne
  rw [functionLengthScore, if_neg (by simpa using hne), hv]
  refine Scale.score_congr fun step hstep => ?_
  obtain ⟨hpos, hcutoff⟩ := functionLengthScale_cutoffs step hstep
  rw [exceedsWhole_iff hfinite hvalue (List.length_pos_iff.mpr hne) (by omega) hpos hcutoff,
    Int.toNat_of_nonneg hlow, decide_eq_true_eq]

/-- The share of comment lines has the score of the exact share. -/
theorem commentDensityScore_eq {comments lines : Int} (hcomments : IsCount comments)
    (hlines : IsCount lines) (hne : lines ≠ 0) :
    commentDensityScore comments lines =
      commentDensityScale.score fun cutoff => cutoff * lines < 100 * comments := by
  obtain ⟨v, hv, hfinite, hvalue⟩ := exists_commentRatio hcomments hlines hne
  obtain ⟨hlow, hhigh⟩ := hlines
  rw [commentDensityScore, if_neg hne, hv]
  refine Scale.score_congr fun step hstep => ?_
  obtain ⟨hpos, hcutoff⟩ := commentDensityScale_cutoffs step hstep
  rw [exceedsHundredths_iff hfinite hvalue (by omega) (by omega) hpos hcutoff,
    Int.toNat_of_nonneg hlow, Int.toNat_of_nonneg hcomments.1, decide_eq_true_eq]

/-- **Bands are exact.** The score of the lengths of functions, of at least one and with fewer than
`countLimit` lines together, is that of comparing the sum of their lines with whole multiples of
their number; the score of a share of comment lines, of counts below `countLimit`, is that of
comparing whole multiples of the number of comment lines with the number of lines. So no rounding of
a quotient or of a cut-off ever moves a file into another band. -/
theorem bands_exact :
    (∀ functions : List FunctionSpan, functions ≠ [] → (∀ f ∈ functions, 0 ≤ f.lineCount) →
      totalFunctionLines functions < countLimit →
        functionLengthScore functions =
          if 50 * functions.length < totalFunctionLines functions then 0
          else if 30 * functions.length < totalFunctionLines functions then 40
          else if 20 * functions.length < totalFunctionLines functions then 70
          else 100) ∧
    ∀ comments lines : Int, IsCount comments → IsCount lines → 0 < lines →
      commentDensityScore comments lines =
        if lines < 10 * comments then 100
        else if lines < 20 * comments then 70
        else if lines < 100 * comments then 40
        else 10 := by
  constructor
  · intro functions hne hlines hlimit
    rw [functionLengthScore_eq hne hlines hlimit, functionLengthScale]
    simp only [Scale.score_cons, decide_eq_true_eq]
    rfl
  · intro comments lines hcomments hlines hpos
    rw [commentDensityScore_eq hcomments hlines hpos.ne', commentDensityScale]
    have hten : 10 * lines < 100 * comments ↔ lines < 10 * comments := by omega
    have htwenty : 5 * lines < 100 * comments ↔ lines < 20 * comments := by omega
    have hhundred : 1 * lines < 100 * comments ↔ lines < 100 * comments := by omega
    simp only [Scale.score_cons, decide_eq_true_eq, hten, htwenty, hhundred]
    rfl

/-- A share just above a twentieth, with as many lines as a count can have, and functions with one
line more than thirty times their number. -/
theorem bands_exact_aboveCutoffs :
    let functions : List FunctionSpan := [⟨"f", 31⟩, ⟨"g", 30⟩]
    (functions ≠ [] ∧ (∀ f ∈ functions, 0 ≤ f.lineCount) ∧
      totalFunctionLines functions < countLimit ∧ functionLengthScore functions = 40) ∧
    IsCount 56294995342132 ∧ IsCount (countLimit - 1) ∧ 0 < (countLimit - 1 : Int) ∧
      commentDensityScore 56294995342132 (countLimit - 1) = 70 := by
  intro functions
  have hne : functions ≠ [] := List.cons_ne_nil _ _
  have hlines : ∀ f ∈ functions, 0 ≤ f.lineCount := by decide
  have hlimit : totalFunctionLines functions < countLimit := by decide
  have hcomments : IsCount 56294995342132 := ⟨by decide, by decide⟩
  have hcount : IsCount (countLimit - 1) := ⟨by decide, by decide⟩
  refine ⟨⟨hne, hlines, hlimit, ?_⟩, hcomments, hcount, by decide, ?_⟩
  · rw [bands_exact.1 functions hne hlines hlimit]
    decide
  · rw [bands_exact.2 _ _ hcomments hcount (by decide)]
    decide

end Preflight
