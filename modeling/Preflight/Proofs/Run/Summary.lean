import Mathlib.Data.Int.Order.Basic
import Mathlib.Data.List.Nodup
import Mathlib.Data.Nat.Basic
import Mathlib.Order.Lattice
import Preflight.Run.Engine

/-!
# What is said about all files of a scan

The result of a run is made from the results for files: their mean score, the number of them at
each level, and the files themselves in the order of the policy. None of these depends on the
order in which the results for files come, as long as no two of them are about the same file.

## Main definitions

* `precedesBy`: the order of results by a key and, where the keys are equal, by path.

## Main results

* `riskCounts_eq`: the number of files at each level.
* `mergeSort_precedesBy_eq_of_perm`: results in order, from results in any order.
* `summarize_eq_of_perm`: the result of a run, from results in any order.
-/

namespace Preflight

/-! ### The mean score -/

theorem repoScore_eq_of_perm {xs ys : List Int} (h : xs.Perm ys) :
    repoScore xs = repoScore ys := by
  have htotal : xs.foldr (· + ·) 0 = ys.foldr (· + ·) 0 :=
    h.foldr_eq' (fun x _ y _ z => Int.add_left_comm y x z) 0
  rw [repoScore, repoScore, h.isEmpty_eq, htotal, h.length_eq]

/-! ### The number of files at each level -/

/-- A tally of the levels of an analysis. -/
def tally (number : RiskLevel → Int) : Counts :=
  ⟨RiskLevel.all.map fun level => (level, number level)⟩

theorem number_tally (number : RiskLevel → Int) {level : RiskLevel}
    (h : level ∈ RiskLevel.all) : (tally number).number level = number level := by
  simp only [RiskLevel.all, List.mem_cons, List.not_mem_nil, or_false] at h
  rcases h with rfl | rfl | rfl
  · rfl
  · rfl
  · rfl

theorem set_tally (number : RiskLevel → Int) {level : RiskLevel} (h : level ∈ RiskLevel.all)
    (n : Int) :
    (tally number).set level n = tally fun l => if l = level then n else number l := by
  simp only [RiskLevel.all, List.mem_cons, List.not_mem_nil, or_false] at h
  rcases h with rfl | rfl | rfl
  · rfl
  · rfl
  · rfl

/-- **The number of files at each level**, the riskiest level first. -/
theorem riskCounts_eq {rs : List FileResult} (h : ∀ r ∈ rs, r.risk.level ∈ RiskLevel.all) :
    riskCounts rs = tally fun level => rs.countP (·.risk.level = level) := by
  have hfold : ∀ (rs : List FileResult) (number : RiskLevel → Int),
      (∀ r ∈ rs, r.risk.level ∈ RiskLevel.all) →
      rs.foldl (fun counts r => counts.set r.risk.level (counts.number r.risk.level + 1))
          (tally number) =
        tally fun level => number level + rs.countP (·.risk.level = level) := by
    intro rs
    induction rs with
    | nil =>
      intro number _
      simp
    | cons r rest ih =>
      intro number hlevels
      have hr := hlevels r (List.mem_cons_self ..)
      rw [List.foldl_cons, number_tally number hr, set_tally number hr,
        ih _ fun x hx => hlevels x (List.mem_cons_of_mem _ hx)]
      congr 1
      funext level
      rw [List.countP_cons]
      by_cases hlevel : level = r.risk.level
      · subst hlevel
        rw [if_pos rfl, if_pos (decide_eq_true rfl)]
        omega
      · rw [if_neg hlevel, if_neg (by simpa using Ne.symm hlevel), Nat.add_zero]
  calc riskCounts rs = tally fun level => 0 + rs.countP (·.risk.level = level) :=
        hfold rs (fun _ => 0) h
    _ = tally fun level => rs.countP (·.risk.level = level) := by
        simp only [Int.zero_add]

theorem riskCounts_eq_of_perm {rs₁ rs₂ : List FileResult} (h : rs₁.Perm rs₂)
    (hlevels : ∀ r ∈ rs₁, r.risk.level ∈ RiskLevel.all) : riskCounts rs₁ = riskCounts rs₂ := by
  rw [riskCounts_eq hlevels, riskCounts_eq fun r hr => hlevels r (h.mem_iff.mpr hr)]
  congr 1
  funext level
  rw [h.countP_eq]

/-! ### The order of files -/

section precedesBy

variable {κ : Type} [LinearOrder κ]

/-- Results with smaller keys come first; among equals, the path decides. -/
def precedesBy (key : FileResult → κ) (a b : FileResult) : Bool :=
  key a < key b || (key a == key b && decide (a.path ≤ b.path))

theorem precedesBy_iff {key : FileResult → κ} {a b : FileResult} :
    precedesBy key a b = true ↔ key a < key b ∨ key a = key b ∧ a.path ≤ b.path := by
  simp [precedesBy]

theorem precedesBy_trans (key : FileResult → κ) (a b c : FileResult)
    (hab : precedesBy key a b = true) (hbc : precedesBy key b c = true) :
    precedesBy key a c = true := by
  rw [precedesBy_iff] at hab hbc ⊢
  rcases hab with hab | ⟨hab, hpath⟩
  · rcases hbc with hbc | ⟨hbc, -⟩
    · exact Or.inl (lt_trans hab hbc)
    · exact Or.inl (hbc ▸ hab)
  · rcases hbc with hbc | ⟨hbc, hpath'⟩
    · exact Or.inl (hab ▸ hbc)
    · exact Or.inr ⟨hab.trans hbc, String.le_trans hpath hpath'⟩

theorem precedesBy_total (key : FileResult → κ) (a b : FileResult) :
    (precedesBy key a b || precedesBy key b a) = true := by
  rw [Bool.or_eq_true, precedesBy_iff, precedesBy_iff]
  rcases lt_trichotomy (key a) (key b) with h | h | h
  · exact Or.inl (Or.inl h)
  · rcases String.le_total a.path b.path with hpath | hpath
    · exact Or.inl (Or.inr ⟨h, hpath⟩)
    · exact Or.inr (Or.inr ⟨h.symm, hpath⟩)
  · exact Or.inr (Or.inl h)

/-- Two results that come before each other are about the same file. -/
theorem path_eq_of_precedesBy {key : FileResult → κ} {a b : FileResult}
    (hab : precedesBy key a b = true) (hba : precedesBy key b a = true) : a.path = b.path := by
  rw [precedesBy_iff] at hab hba
  rcases hab with hab | ⟨hab, hpath⟩
  · rcases hba with hba | ⟨hba, -⟩
    · exact absurd hba (lt_asymm hab)
    · exact absurd hab (hba ▸ lt_irrefl _)
  · rcases hba with hba | ⟨-, hpath'⟩
    · exact absurd hba (hab ▸ lt_irrefl _)
    · exact String.le_antisymm hpath hpath'

/-- Results about different files have one order, whatever the order they come in. -/
theorem mergeSort_precedesBy_eq_of_perm (key : FileResult → κ) {rs₁ rs₂ : List FileResult}
    (h : rs₁.Perm rs₂) (hpaths : (rs₁.map (·.path)).Nodup) :
    rs₁.mergeSort (precedesBy key) = rs₂.mergeSort (precedesBy key) := by
  have hsorted : ∀ rs : List FileResult,
      (rs.mergeSort (precedesBy key)).Pairwise fun a b => precedesBy key a b = true := by
    intro rs
    exact List.pairwise_mergeSort (precedesBy_trans key) (precedesBy_total key) rs
  have hperm : (rs₁.mergeSort (precedesBy key)).Perm (rs₂.mergeSort (precedesBy key)) :=
    (List.mergeSort_perm _ _).trans (h.trans (List.mergeSort_perm _ _).symm)
  refine List.Perm.eq_of_pairwise (fun a b ha hb hab hba => ?_) (hsorted rs₁) (hsorted rs₂) hperm
  rw [List.mem_mergeSort] at ha hb
  exact List.inj_on_of_nodup_map hpaths ha (h.mem_iff.mpr hb) (path_eq_of_precedesBy hab hba)

/-- Results about different files come strictly one after another: no two of them have the same
key and the same path. -/
theorem pairwise_mergeSort_precedesBy (key : FileResult → κ) {rs : List FileResult}
    (hpaths : (rs.map (·.path)).Nodup) :
    (rs.mergeSort (precedesBy key)).Pairwise fun a b =>
      key a < key b ∨ key a = key b ∧ a.path < b.path := by
  have hsorted : (rs.mergeSort (precedesBy key)).Pairwise fun a b => precedesBy key a b = true :=
    List.pairwise_mergeSort (precedesBy_trans key) (precedesBy_total key) rs
  have hdistinct : (rs.mergeSort (precedesBy key)).Pairwise fun a b => a.path ≠ b.path := by
    have hperm := (List.mergeSort_perm rs (precedesBy key)).map (·.path)
    exact List.pairwise_map.mp (hperm.nodup_iff.mpr hpaths)
  refine hsorted.imp₂ (fun a b hab hne => ?_) hdistinct
  rcases precedesBy_iff.mp hab with hkey | ⟨hkey, hle⟩
  · exact Or.inl hkey
  · refine Or.inr ⟨hkey, Decidable.not_not.mp fun hlt => hne ?_⟩
    exact String.le_antisymm hle (String.not_lt.mp hlt)

end precedesBy

theorem sortByScore_eq_of_perm {rs₁ rs₂ : List FileResult} (h : rs₁.Perm rs₂)
    (hpaths : (rs₁.map (·.path)).Nodup) : sortByScore rs₁ = sortByScore rs₂ :=
  mergeSort_precedesBy_eq_of_perm (·.score.score) h hpaths

theorem sortByRisk_eq_of_perm {rs₁ rs₂ : List FileResult} (h : rs₁.Perm rs₂)
    (hpaths : (rs₁.map (·.path)).Nodup) : sortByRisk rs₁ = sortByRisk rs₂ :=
  mergeSort_precedesBy_eq_of_perm (·.risk.level.rank) h hpaths

/-- **The result of a run does not depend on the order of the results for files**, if these are
about different files and at levels of an analysis. -/
theorem summarize_eq_of_perm (root : Path) (policy : Policy) {rs₁ rs₂ : List FileResult}
    (h : rs₁.Perm rs₂) (hpaths : (rs₁.map (·.path)).Nodup)
    (hlevels : ∀ r ∈ rs₁, r.risk.level ∈ RiskLevel.all) :
    summarize root policy rs₁ = summarize root policy rs₂ := by
  rw [summarize, summarize, repoScore_eq_of_perm (h.map _), riskCounts_eq_of_perm h hlevels,
    sortByScore_eq_of_perm h hpaths, sortByRisk_eq_of_perm h hpaths]

end Preflight
