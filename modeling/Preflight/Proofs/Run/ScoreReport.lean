import Preflight.Proofs.Run.Comparison
import Preflight.Report.Payload

/-!
# Reports on scores do not look at risk

Under the policy of scores a report is made from the facts and the scores of files. Two runs that
agree on these give the same report, whatever they say about risk.

## Main definitions

* `SameScore`: two results with the same facts and the same score.

## Main results

* `sortByScore_sameScore`, `scoreRecommendations_sameScore`: order and recommendations.
* `toJson_summarize_score`: the report for machines.
-/

namespace Preflight

/-- Two results with the same facts and the same score. -/
def SameScore (x x' : FileResult) : Prop := x.facts = x'.facts ∧ x.score = x'.score

variable {xs xs' : List FileResult}

/-- What is read off facts and scores alone is the same. -/
theorem map_eq_of_sameScore {α : Type} {f : FileResult → α}
    (hf : ∀ x x', SameScore x x' → f x = f x') (h : List.Forall₂ SameScore xs xs') :
    xs.map f = xs'.map f := by
  rw [← List.forall₂_eq_eq_eq, List.forall₂_map_left_iff, List.forall₂_map_right_iff]
  exact h.imp hf

theorem sortByScore_sameScore (h : List.Forall₂ SameScore xs xs') :
    List.Forall₂ SameScore (sortByScore xs) (sortByScore xs') := by
  -- the order of two results can be told from their facts and scores
  have hsort : ∀ rs : List FileResult, (sortByScore rs).map (fun x => (x.facts, x.score)) =
      (rs.map fun x => (x.facts, x.score)).mergeSort fun a b =>
        a.2.score < b.2.score || (a.2.score == b.2.score && decide (a.1.path ≤ b.1.path)) := by
    intro rs
    exact List.map_mergeSort fun a _ b _ => rfl
  have hmap : (sortByScore xs).map (fun x => (x.facts, x.score)) =
      (sortByScore xs').map fun x => (x.facts, x.score) := by
    rw [hsort, hsort, map_eq_of_sameScore (fun x x' hx => Prod.ext hx.1 hx.2) h]
  rw [← List.forall₂_eq_eq_eq, List.forall₂_map_left_iff, List.forall₂_map_right_iff] at hmap
  exact hmap.imp fun x x' hx => Prod.mk.inj hx

theorem scoreRecommendations_sameScore (h : List.Forall₂ SameScore xs xs') (overall : Int) :
    scoreRecommendations xs overall = scoreRecommendations xs' overall := by
  have hlow : List.Forall₂ SameScore (xs.filter fun r => r.score.score < splitThreshold)
      (xs'.filter fun r => r.score.score < splitThreshold) := by
    refine List.rel_filter (fun x x' hx => ?_) h
    simp only [hx.2]
  rw [scoreRecommendations, scoreRecommendations]
  generalize (xs.filter fun r => r.score.score < splitThreshold) = low at hlow
  generalize (xs'.filter fun r => r.score.score < splitThreshold) = low' at hlow
  cases hlow with
  | nil => rfl
  | @cons worst worst' others others' hworst hothers =>
    have hissue : ∀ x x', SameScore x x' →
        (x.score.issues.head?.map fun issue => issue ++ " in " ++ x.path) =
          x'.score.issues.head?.map fun issue => issue ++ " in " ++ x'.path := by
      intro x x' hx
      rw [FileResult.path, FileResult.path, hx.1, hx.2]
    have hissues := congrArg (List.filterMap id)
      (map_eq_of_sameScore hissue (List.forall₂_take 2 hothers))
    rw [List.filterMap_map, List.filterMap_map] at hissues
    dsimp only
    rw [FileResult.path, FileResult.path, hworst.1]
    exact congrArg (_ :: ·) hissues

/-- **The report on scores.** Results that agree on facts and scores make the same report. -/
theorem toJson_summarize_score (root : Path) (h : List.Forall₂ SameScore xs xs') :
    (summarize root .score xs).toJson = (summarize root .score xs').toJson := by
  have hoverall : xs.map (·.score.score) = xs'.map (·.score.score) :=
    map_eq_of_sameScore (fun x x' hx => by rw [hx.2]) h
  have hsort := sortByScore_sameScore h
  have hfiles : (sortByScore xs).map (·.score.toJson) = (sortByScore xs').map (·.score.toJson) :=
    map_eq_of_sameScore (fun x x' hx => by rw [hx.2]) hsort
  simp only [AnalysisResult.toJson, AnalysisResult.members, summarize, if_true, hoverall, hfiles,
    scoreRecommendations_sameScore hsort]

end Preflight
