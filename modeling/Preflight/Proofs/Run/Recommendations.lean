import Preflight.Proofs.Run.Summary
import Preflight.Proofs.Scoring.Issue

/-!
# Which files to improve first

Under the policy of scores at most three files are named, the lowest score first: one to be split,
and two with what is wrong with them. A score that low always has an issue behind it, so that no
file is passed over. Where no file is named there may be a nudge.

## Main definitions

* `ScoredBelow`: the order of files by score and, where the scores are equal, by path.
* `FileResult.isLow`: a score so low that the file may be named.
* `CallsOut`: a line that names a file and its first issue.

## Main results

* `filter_isLow_sortByScore`: the low files come first.
* `recommendations_complete`: the recommendations for all files.
-/

namespace Preflight

/-! ### A property that holds at the beginning of a list -/

section Beginning

variable {α β : Type} {p : α → Bool} {l : List α}

/-- Where a property is only lost along a list, its members are as many at the beginning. -/
theorem filter_eq_take_countP (h : l.Pairwise fun a b => p b = true → p a = true) :
    l.filter p = l.take (l.countP p) := by
  induction l with
  | nil => rfl
  | cons a rest ih =>
    obtain ⟨hfirst, hrest⟩ := List.pairwise_cons.mp h
    by_cases ha : p a = true
    · rw [List.filter_cons_of_pos ha, List.countP_cons_of_pos ha, List.take_succ_cons, ih hrest]
    · have hnone : ∀ b ∈ rest, ¬ p b = true := fun b hb hpb => ha (hfirst b hb hpb)
      rw [List.filter_cons_of_neg ha, List.filter_eq_nil_iff.mpr hnone,
        List.countP_cons_of_neg ha, List.countP_eq_zero.mpr hnone, List.take_zero]

/-- Where every member has an image, none is left out. -/
theorem forall₂_filterMap {f : α → Option β} {R : α → β → Prop}
    (h : ∀ a ∈ l, ∃ b, f a = some b ∧ R a b) : List.Forall₂ R l (l.filterMap f) := by
  induction l with
  | nil => exact .nil
  | cons a rest ih =>
    obtain ⟨b, hb, hR⟩ := h a (List.mem_cons_self ..)
    rw [List.filterMap_cons_some hb]
    exact .cons hR (ih fun x hx => h x (List.mem_cons_of_mem _ hx))

end Beginning

/-! ### Low files -/

/-- A file has a lower score than another, or the same score and a smaller path. -/
def ScoredBelow (a b : FileResult) : Prop :=
  a.score.score < b.score.score ∨ a.score.score = b.score.score ∧ a.path < b.path

/-- The score of a file is so low that it may be named. -/
def FileResult.isLow (r : FileResult) : Bool := r.score.score < splitThreshold

/-- The line that names a file with its first issue, if there is one. -/
def FileResult.callOut? (r : FileResult) : Option String :=
  r.score.issues.head?.map fun issue => issue ++ " in " ++ r.path

/-- A line names a file and what it is told first. -/
def CallsOut (r : FileResult) (line : String) : Prop :=
  ∃ issue, TopIssue r.facts issue ∧ line = issue ++ " in " ++ r.path

variable {rs : List FileResult}

theorem sortByScore_perm (rs : List FileResult) : (sortByScore rs).Perm rs :=
  List.mergeSort_perm rs scorePrecedes

theorem pairwise_sortByScore (hpaths : (rs.map (·.path)).Nodup) :
    (sortByScore rs).Pairwise ScoredBelow :=
  pairwise_mergeSort_precedesBy (·.score.score) hpaths

/-- **The low files come first.** -/
theorem filter_isLow_sortByScore (hpaths : (rs.map (·.path)).Nodup) :
    (sortByScore rs).filter (·.isLow) = (sortByScore rs).take (rs.countP (·.isLow)) := by
  have hcount : (sortByScore rs).countP (·.isLow) = rs.countP (·.isLow) :=
    (sortByScore_perm rs).countP_eq _
  rw [← hcount]
  refine filter_eq_take_countP ((pairwise_sortByScore hpaths).imp fun {a b} hab hb => ?_)
  rw [FileResult.isLow, decide_eq_true_eq] at hb ⊢
  rcases hab with hab | ⟨hab, -⟩
  · exact Int.lt_trans hab hb
  · exact hab ▸ hb

/-- A low file is called out by its first issue. -/
theorem exists_callsOut {r : FileResult} (hscore : r.score = scoreFile r.facts)
    (hlow : r.isLow = true) :
    ∃ line, r.callOut? = some line ∧ CallsOut r line := by
  rw [FileResult.isLow, decide_eq_true_eq, hscore] at hlow
  have hclean : (scoreFile r.facts).score < cleanThreshold := Int.lt_trans hlow (by decide)
  obtain ⟨issue, hissue, htop⟩ := exists_topIssue hclean
  rw [FileResult.callOut?, hscore, hissue]
  exact ⟨_, rfl, issue, htop, rfl⟩

/-! ### The recommendations -/

theorem scoreRecommendations_of_filter_eq_nil {ordered : List FileResult}
    (h : ordered.filter (·.isLow) = []) (overall : Int) :
    scoreRecommendations ordered overall = if overall < nudgeThreshold then [nudge] else [] := by
  unfold FileResult.isLow at h
  rw [scoreRecommendations, h]

theorem scoreRecommendations_of_filter_eq_cons {ordered low : List FileResult} {worst : FileResult}
    (h : ordered.filter (·.isLow) = worst :: low) (overall : Int) :
    scoreRecommendations ordered overall =
      ("split " ++ worst.path ++ " into smaller files first (biggest win)") ::
        (low.take 2).filterMap FileResult.callOut? := by
  unfold FileResult.isLow at h
  rw [scoreRecommendations, h]
  rfl

/-- The number of files that may be named. -/
def lowCount (rs : List FileResult) : Nat := rs.countP (·.isLow)

/-- The recommendations for some files, put in order and with their mean score. -/
def scoreAdvice (rs : List FileResult) : List String :=
  scoreRecommendations (sortByScore rs) (repoScore (rs.map (·.score.score)))

/-- Without low files there is at most the nudge. -/
theorem scoreAdvice_of_lowCount_eq_zero (h : lowCount rs = 0) :
    scoreAdvice rs =
      if repoScore (rs.map (·.score.score)) < nudgeThreshold then [nudge] else [] := by
  refine scoreRecommendations_of_filter_eq_nil (List.filter_eq_nil_iff.mpr fun r hr => ?_) _
  exact List.countP_eq_zero.mp h r ((sortByScore_perm rs).mem_iff.mp hr)

/-- With low files, the first one is to be split, and each of the next two is called out. -/
theorem scoreAdvice_of_lowCount_pos (hscores : ∀ r ∈ rs, r.score = scoreFile r.facts)
    (hpaths : (rs.map (·.path)).Nodup) (h : 0 < lowCount rs) :
    ∃ worst others lines, sortByScore rs = worst :: others ∧
      scoreAdvice rs =
        ("split " ++ worst.path ++ " into smaller files first (biggest win)") :: lines ∧
      List.Forall₂ CallsOut (others.take (min (lowCount rs) 3 - 1)) lines := by
  obtain ⟨n, hn⟩ := Nat.exists_eq_succ_of_ne_zero (Nat.ne_of_gt h)
  have hfilter := filter_isLow_sortByScore hpaths
  cases hordered : sortByScore rs with
  | nil =>
    have hempty : rs = [] := List.perm_nil.mp (hordered ▸ sortByScore_perm rs).symm
    rw [hempty] at h
    exact absurd h (Nat.lt_irrefl 0)
  | cons worst others =>
    -- the low files are the first `n + 1`, so the two to be called out are low
    rw [← lowCount, hn, hordered, List.take_succ_cons] at hfilter
    have hlines : ∀ r ∈ (others.take n).take 2,
        ∃ line, r.callOut? = some line ∧ CallsOut r line := by
      intro r hr
      have hlow : r ∈ (worst :: others).filter (·.isLow) := by
        rw [hfilter]
        exact List.mem_cons_of_mem _ (List.mem_of_mem_take hr)
      rw [← hordered] at hlow
      obtain ⟨hmem, hlow⟩ := List.mem_filter.mp hlow
      exact exists_callsOut (hscores r ((sortByScore_perm rs).mem_iff.mp hmem)) hlow
    have hnumber : min (lowCount rs) 3 - 1 = min 2 n := by omega
    rw [← hordered] at hfilter
    refine ⟨worst, others, ((others.take n).take 2).filterMap FileResult.callOut?, rfl,
      scoreRecommendations_of_filter_eq_cons hfilter _, ?_⟩
    rw [hnumber, ← List.take_take]
    exact forall₂_filterMap hlines

/-- **Recommendations are complete.** Take files with different paths, scored and put in order, and
let `k` of them have a score below the threshold. If there are any, the recommendations are
`min k 3` lines: to split the first file, and then, for the next two that are low, what each is told
first. If there are none, there is a nudge where the mean score is low, and nothing otherwise. -/
theorem recommendations_complete {rs : List FileResult}
    (hscores : ∀ r ∈ rs, r.score = scoreFile r.facts) (hpaths : (rs.map (·.path)).Nodup) :
    (sortByScore rs).Perm rs ∧ (sortByScore rs).Pairwise ScoredBelow ∧
      (0 < lowCount rs → (scoreAdvice rs).length = min (lowCount rs) 3 ∧
        ∃ worst others lines, sortByScore rs = worst :: others ∧
          scoreAdvice rs =
            ("split " ++ worst.path ++ " into smaller files first (biggest win)") :: lines ∧
          List.Forall₂ CallsOut (others.take (min (lowCount rs) 3 - 1)) lines) ∧
      (lowCount rs = 0 → scoreAdvice rs =
        if repoScore (rs.map (·.score.score)) < nudgeThreshold then [nudge] else []) := by
  refine ⟨sortByScore_perm rs, pairwise_sortByScore hpaths, fun h => ?_,
    scoreAdvice_of_lowCount_eq_zero⟩
  obtain ⟨worst, others, lines, hordered, hadvice, hlines⟩ :=
    scoreAdvice_of_lowCount_pos hscores hpaths h
  refine ⟨?_, worst, others, lines, hordered, hadvice, hlines⟩
  have hle : lowCount rs ≤ others.length + 1 := by
    rw [← List.length_cons (a := worst), ← hordered, (sortByScore_perm rs).length_eq]
    exact List.countP_le_length
  have hlength := hlines.length_eq
  rw [List.length_take] at hlength
  rw [hadvice, List.length_cons, ← hlength]
  omega

/-- Four files with low scores: two that cannot be read, and two that are long and import much. -/
def lowFiles : List FileResult :=
  let unread (path : FileId) : FileFacts := { path, readable := false }
  let crowded (path : FileId) : FileFacts :=
    { path, source := { importCount := 9, totalLines := 600 } }
  [crowded "d.ts", unread "b.ts", crowded "c.ts", unread "a.ts"].map fun facts =>
    { facts, score := scoreFile facts, risk := { file := facts.path, level := .low } }

theorem recommendations_complete_lowFiles :
    (∀ r ∈ lowFiles, r.score = scoreFile r.facts) ∧ (lowFiles.map (·.path)).Nodup ∧
      0 < lowCount lowFiles ∧ (scoreAdvice lowFiles).length = 3 := by
  have hscores : ∀ r ∈ lowFiles, r.score = scoreFile r.facts := by
    intro r hr
    obtain ⟨facts, -, rfl⟩ := List.mem_map.mp hr
    rfl
  have hpaths : (lowFiles.map (·.path)).Nodup := by decide
  have hcount : lowCount lowFiles = 4 := by decide +kernel
  have hlow : 0 < lowCount lowFiles := by rw [hcount]; decide
  have hlength := ((recommendations_complete hscores hpaths).2.2.1 hlow).1
  rw [hcount] at hlength
  exact ⟨hscores, hpaths, hlow, hlength⟩

end Preflight
