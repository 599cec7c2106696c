import Mathlib.Data.List.Forall2
import Preflight.Proofs.Number.Rounding
import Preflight.Scoring.Score

/-!
# Worse measures, no better bands

A scale gives the score of the first cut-off that a measure exceeds, and along every scale the scores
only rise or only fall. So a measure that exceeds more cut-offs has a score further up the scale.
Quotients are rounded before they are compared with the cut-offs, and since rounding keeps the
order, the greater of two quotients exceeds all that the smaller one does.

## Main definitions

* `IsCount`: a number that a count can be.

## Main results

* `Scale.score_of_exceeds`: scores of two measures on one scale.
* `exists_average`, `exists_commentRatio`: the quotients are not too large.
* `functionLengthScore_mono`, `couplingScore_mono`, `commentDensityScore_mono`,
  `fileSizeScore_mono`: the score of a worse measure on each axis.
-/

namespace Preflight

open Preflight.Source

/-! ### Scales -/

namespace Scale

variable {α : Type}

/-- The scores of a scale, in the order of its cut-offs. -/
def scores (scale : Scale α) : List Int := scale.steps.map (·.2) ++ [scale.otherwise]

theorem score_cons (step : α × Int) (rest : List (α × Int)) (otherwise : Int)
    (exceeds : α → Bool) :
    score ⟨step :: rest, otherwise⟩ exceeds =
      if exceeds step.1 then step.2 else score ⟨rest, otherwise⟩ exceeds := by
  cases h : exceeds step.1 with
  | false => simp [score, h]
  | true => simp [score, h]

theorem score_mem (scale : Scale α) (exceeds : α → Bool) :
    scale.score exceeds ∈ scale.scores := by
  obtain ⟨steps, otherwise⟩ := scale
  induction steps with
  | nil => exact List.mem_singleton_self _
  | cons step rest ih =>
    rw [score_cons]
    split
    · exact List.mem_cons_self ..
    · exact List.mem_cons_of_mem _ ih

/-- **Two measures on one scale.** What exceeds more cut-offs has a score that comes no later. -/
theorem score_of_exceeds {scale : Scale α} {R : Int → Int → Prop} (hrefl : ∀ n, R n n)
    (hscores : scale.scores.Pairwise R) {exceeds exceeds' : α → Bool}
    (h : ∀ cutoff, exceeds cutoff = true → exceeds' cutoff = true) :
    R (scale.score exceeds') (scale.score exceeds) := by
  obtain ⟨steps, otherwise⟩ := scale
  induction steps with
  | nil => exact hrefl _
  | cons step rest ih =>
    obtain ⟨hfirst, hrest⟩ := List.pairwise_cons.mp hscores
    rw [score_cons, score_cons]
    by_cases hstep' : exceeds' step.1 = true
    · rw [if_pos hstep']
      split
      · exact hrefl _
      · exact hfirst _ (score_mem ⟨rest, otherwise⟩ exceeds)
    · have hstep : ¬exceeds step.1 = true := fun hstep => hstep' (h _ hstep)
      rw [if_neg hstep', if_neg hstep]
      exact ih hrest

/-- No score of a scale that only rises is above its last. -/
theorem score_le_otherwise {scale : Scale α} (hscores : scale.scores.Pairwise (· ≤ ·))
    (exceeds : α → Bool) : scale.score exceeds ≤ scale.otherwise := by
  rcases List.mem_append.mp (score_mem scale exceeds) with hstep | hlast
  · exact (List.pairwise_append.mp hscores).2.2 _ hstep _ (List.mem_singleton_self _)
  · exact Int.le_of_eq (List.mem_singleton.mp hlast)

end Scale

theorem functionLengthScale_scores : functionLengthScale.scores.Pairwise (· ≤ ·) := by decide

theorem couplingScale_scores : couplingScale.scores.Pairwise (· ≤ ·) := by decide

theorem fileSizeScale_scores : fileSizeScale.scores.Pairwise (· ≤ ·) := by decide

theorem commentDensityScale_scores : commentDensityScale.scores.Pairwise (· ≥ ·) := by decide

theorem commentDensityScale_le : ∀ n ∈ commentDensityScale.scores, n ≤ 100 := by decide

/-! ### Whole measures -/

theorem couplingScore_mono {imports imports' : Int} (h : imports ≤ imports') :
    couplingScore imports' ≤ couplingScore imports :=
  Scale.score_of_exceeds Int.le_refl couplingScale_scores fun cutoff hcutoff => by
    rw [exceedsInt, decide_eq_true_eq] at hcutoff ⊢
    exact Int.lt_of_lt_of_le hcutoff h

theorem couplingScore_eq (imports : Int) :
    couplingScore imports =
      if 8 < imports then 0 else if 5 < imports then 40 else if 3 < imports then 70 else 100 := by
  simp only [couplingScore, couplingScale, Scale.score_cons, exceedsInt, decide_eq_true_eq]
  rfl

/-- More imports lower the score just where they pass a cut-off. -/
theorem couplingScore_lt_iff {imports imports' : Int} :
    couplingScore imports' < couplingScore imports ↔
      ∃ step ∈ couplingScale.steps, imports ≤ step.1 ∧ step.1 < imports' := by
  rw [couplingScore_eq, couplingScore_eq]
  simp only [couplingScale, List.mem_cons, List.not_mem_nil, or_false, exists_eq_or_imp,
    exists_eq_left]
  split_ifs <;> omega

theorem fileSizeScore_mono {lines lines' : Int} (h : lines ≤ lines') :
    fileSizeScore lines' ≤ fileSizeScore lines :=
  Scale.score_of_exceeds Int.le_refl fileSizeScale_scores fun cutoff hcutoff => by
    rw [exceedsInt, decide_eq_true_eq] at hcutoff ⊢
    exact Int.lt_of_lt_of_le hcutoff h

/-! ### Counts -/

/-- Counts are smaller than this. -/
def countLimit : Nat := Nat.pow 2 50

/-- A number that a count can be. -/
def IsCount (n : Int) : Prop := 0 ≤ n ∧ n < countLimit

/-- A quotient of two numbers, the first less than a limit times the second, is not too large. -/
theorem exists_quotient {num den : Nat} (hden : 0 < den) (h : num < countLimit * den) :
    ∃ v, Binary64.ofQuotient? num den = some v ∧ v.IsFinite ∧
      v.toRat = Binary64.rounded num den := by
  obtain ⟨v, hv, hvalue⟩ := Binary64.ofQuotient?_natCast hden (by decide) h
  exact ⟨v, hv, Binary64.isFinite_of_ofQuotient? hv, hvalue⟩

/-! ### The lengths of functions -/

section functions

variable {functions functions' : List FunctionSpan}

theorem totalFunctionLines_cons (f : FunctionSpan) (functions : List FunctionSpan) :
    totalFunctionLines (f :: functions) = f.lineCount + totalFunctionLines functions := rfl

/-- Functions have fewer lines together than as many times the limit of a count. -/
theorem totalFunctionLines_bounds (h : ∀ f ∈ functions, IsCount f.lineCount) :
    0 ≤ totalFunctionLines functions ∧
      totalFunctionLines functions + functions.length ≤ (countLimit * functions.length : Nat) := by
  induction functions with
  | nil => exact ⟨Int.le_refl 0, Int.le_refl 0⟩
  | cons f functions ih =>
    obtain ⟨hf, hrest⟩ := List.forall_mem_cons.mp h
    obtain ⟨hlow, hhigh⟩ := ih hrest
    obtain ⟨hfLow, hfHigh⟩ := hf
    rw [totalFunctionLines_cons, List.length_cons, Nat.mul_succ]
    omega

theorem totalFunctionLines_mono
    (h : List.Forall₂ (fun f f' => f.lineCount ≤ f'.lineCount) functions functions') :
    totalFunctionLines functions ≤ totalFunctionLines functions' := by
  induction h with
  | nil => exact Int.le_refl 0
  | cons hf _ ih => exact Int.add_le_add hf ih

/-- **The mean number of lines of a function** is the rounded quotient. -/
theorem exists_average (h : ∀ f ∈ functions, IsCount f.lineCount) (hne : functions ≠ []) :
    ∃ v, averageFunctionLines? functions = some v ∧ v.IsFinite ∧
      v.toRat = Binary64.rounded (totalFunctionLines functions).toNat functions.length := by
  obtain ⟨hlow, hhigh⟩ := totalFunctionLines_bounds h
  have hlength : 0 < functions.length := List.length_pos_iff.mpr hne
  have htotal : ((totalFunctionLines functions).toNat : Int) = totalFunctionLines functions :=
    Int.toNat_of_nonneg hlow
  rw [averageFunctionLines?, if_neg (by simpa using hne), ← htotal]
  exact exists_quotient hlength (by omega)

/-- **Longer functions, no better score.** -/
theorem functionLengthScore_mono (h : ∀ f ∈ functions, IsCount f.lineCount)
    (h' : ∀ f ∈ functions', IsCount f.lineCount)
    (hworse : functions = [] ∨
      List.Forall₂ (fun f f' => f.lineCount ≤ f'.lineCount) functions functions') :
    functionLengthScore functions' ≤ functionLengthScore functions := by
  have hbest : functionLengthScore functions' ≤ functionLengthScore [] := by
    rw [functionLengthScore]
    split
    · exact Int.le_refl _
    · exact Scale.score_le_otherwise functionLengthScale_scores _
  rcases hworse with hnil | hlonger
  · rwa [hnil]
  rcases Decidable.em (functions = []) with hnil | hne
  · rwa [hnil]
  have hlength := hlonger.length_eq
  have hpos : 0 < functions.length := List.length_pos_iff.mpr hne
  have hne' : functions' ≠ [] := List.length_pos_iff.mp (hlength ▸ hpos)
  obtain ⟨v, hv, hfinite, hvalue⟩ := exists_average h hne
  obtain ⟨v', hv', hfinite', hvalue'⟩ := exists_average h' hne'
  have hvalues : v.toRat ≤ v'.toRat := by
    have htotals := totalFunctionLines_mono hlonger
    rw [hvalue, hvalue', ← hlength]
    exact Binary64.rounded_mono hpos hpos (Nat.mul_le_mul_right _ (by omega))
  rw [functionLengthScore, functionLengthScore, if_neg (by simpa using hne'),
    if_neg (by simpa using hne), hv, hv']
  exact Scale.score_of_exceeds Int.le_refl functionLengthScale_scores fun cutoff hcutoff =>
    Binary64.exceeds_of_le hfinite hfinite' (Binary64.isFinite_ofInt cutoff) hvalues hcutoff

end functions

/-! ### The share of comment lines -/

section comments

variable {comments lines comments' lines' : Int}

/-- **The share of comment lines** is the rounded quotient. -/
theorem exists_commentRatio (hcomments : IsCount comments) (hlines : IsCount lines)
    (hne : lines ≠ 0) :
    ∃ v, commentRatio? comments lines = some v ∧ v.IsFinite ∧
      v.toRat = Binary64.rounded comments.toNat lines.toNat := by
  obtain ⟨hlow, hhigh⟩ := hcomments
  have hpos : 0 < lines.toNat := by
    have := hlines.1
    omega
  have hless : comments.toNat < countLimit * lines.toNat :=
    Nat.lt_of_lt_of_le (by omega) (Nat.le_mul_of_pos_right countLimit hpos)
  have hquotient := exists_quotient hpos hless
  rwa [Int.toNat_of_nonneg hlow, Int.toNat_of_nonneg hlines.1] at hquotient

/-- What a quotient exceeds, a greater one exceeds. -/
theorem exceedsHundredths_of_le {v w : Binary64} (hv : v.IsFinite) (hw : w.IsFinite)
    (h : v.toRat ≤ w.toRat) {positive : Bool} {cutoff : Int}
    (hexceeds : exceedsHundredths positive (some v) cutoff = true) :
    exceedsHundredths true (some w) cutoff = true := by
  unfold exceedsHundredths at hexceeds ⊢
  cases hc : Binary64.ofQuotient? cutoff 100 with
  | none => rfl
  | some c =>
    rw [hc] at hexceeds
    exact Binary64.exceeds_of_le hv hw (Binary64.isFinite_of_ofQuotient? hc) h hexceeds

/-- **A smaller share of comment lines, no better score.** -/
theorem commentDensityScore_mono (hcomments : IsCount comments) (hlines : IsCount lines)
    (hcomments' : IsCount comments') (hlines' : IsCount lines') (hfewer : comments' ≤ comments)
    (hmore : lines ≤ lines') :
    commentDensityScore comments' lines' ≤ commentDensityScore comments lines := by
  by_cases hzero : lines = 0
  · -- a file without lines has the best score
    rw [commentDensityScore, commentDensityScore, if_pos hzero]
    split
    · exact Int.le_refl _
    · exact commentDensityScale_le _ (Scale.score_mem _ _)
  have hzero' : lines' ≠ 0 := by
    have := hlines.1
    omega
  obtain ⟨v, hv, hfinite, hvalue⟩ := exists_commentRatio hcomments hlines hzero
  obtain ⟨v', hv', hfinite', hvalue'⟩ := exists_commentRatio hcomments' hlines' hzero'
  have hvalues : v'.toRat ≤ v.toRat := by
    have hcommentsLow := hcomments'.1
    have hlinesLow := hlines.1
    rw [hvalue, hvalue']
    exact Binary64.rounded_mono (by omega) (by omega) (Nat.mul_le_mul (by omega) (by omega))
  have hsign : ((decide (comments < 0)) == decide (lines < 0)) = true := by
    rw [decide_eq_false (Int.not_lt.mpr hcomments.1), decide_eq_false (Int.not_lt.mpr hlines.1)]
    rfl
  rw [commentDensityScore, commentDensityScore, if_neg hzero, if_neg hzero', hv, hv', hsign]
  exact Scale.score_of_exceeds (R := (· ≥ ·)) Int.le_refl commentDensityScale_scores
    fun cutoff hcutoff => exceedsHundredths_of_le hfinite' hfinite hvalues hcutoff

end comments

end Preflight
