import Preflight.Risk.Guidance

/-!
# What to do first

What there is to do about the files of a scan is taken up in the order of its kinds, the most urgent
first, and within a kind in the order of the files. Nothing is taken up twice, and once there is
enough the rest is left. So the items are the first of the distinct candidates: as many as the limit
says, and one at least, because only what was taken is counted.

## Main results

* `takeUp_distinct`: what is taken up, from any point of the candidates on.
* `mem_take_distinct_of_earlier`: no candidate is passed over for a later one.
* `actionItems_first`: the items for all results and limits.
-/

namespace Preflight

/-! ### The first distinct members of a list -/

section distinct

variable {α : Type} [DecidableEq α]

theorem distinct_concat (xs : List α) (x : α) :
    distinct (xs ++ [x]) = if xs.contains x then distinct xs else distinct xs ++ [x] := by
  have hone : distinct [x] = [x] := rfl
  rw [distinct_append, hone]
  by_cases h : xs.contains x = true
  · rw [if_pos h, List.filter_cons_of_neg (by rw [h]; decide), List.filter_nil, List.append_nil]
  · rw [if_neg h, List.filter_cons_of_pos (by simpa using h), List.filter_nil]

theorem distinct_isPrefix (xs ys : List α) : distinct xs <+: distinct (xs ++ ys) := by
  rw [distinct_append]
  exact List.prefix_append _ _

/-- **No member is passed over for a later one.** Where one of the first distinct members comes only
after some others, all of these are among the first. -/
theorem mem_take_distinct_of_earlier {earlier later : List α} {n : Nat} {x y : α}
    (hx : x ∈ (distinct (earlier ++ later)).take n) (hlate : x ∉ earlier) (hy : y ∈ earlier) :
    y ∈ (distinct (earlier ++ later)).take n := by
  rw [distinct_append] at hx ⊢
  by_cases hn : n ≤ (distinct earlier).length
  · rw [List.take_append_of_le_length hn] at hx
    exact absurd (mem_distinct.mp (List.mem_of_mem_take hx)) hlate
  · rw [List.take_append, List.take_of_length_le (Nat.le_of_not_le hn)]
    exact List.mem_append_left _ (mem_distinct.mpr hy)

end distinct

/-! ### Taking up what there is to do -/

/-- The number of things that are enough: what the limit says, and one at least. -/
def enough (limit : Int) : Nat := max 1 limit.toNat

theorem enough_of_pos {limit : Int} (h : 1 ≤ limit) : enough limit = limit.toNat := by
  rw [enough]
  omega

/-- **What is taken up** when the distinct ones of some candidates were taken, and these were not
yet enough: with the rest of the candidates, the first distinct ones. -/
theorem takeUp_distinct {limit : Int} (rest : List String) : ∀ {before : List String},
    (distinct before).length < enough limit →
      takeUp limit (distinct before) rest = (distinct (before ++ rest)).take (enough limit) := by
  induction rest with
  | nil =>
    intro before hfew
    rw [takeUp, List.append_nil, List.take_of_length_le (Nat.le_of_lt hfew)]
  | cons candidate rest ih =>
    intro before hfew
    have hcontains : (distinct before).contains candidate = before.contains candidate := by
      rw [Bool.eq_iff_iff, List.contains_iff_mem, List.contains_iff_mem, mem_distinct]
    have hassoc : before ++ candidate :: rest = (before ++ [candidate]) ++ rest := by
      rw [List.append_assoc, List.singleton_append]
    rw [takeUp, hcontains, hassoc]
    by_cases hold : before.contains candidate = true
    · -- nothing new: the same were taken of one candidate more
      have hsame : distinct (before ++ [candidate]) = distinct before := by
        rw [distinct_concat, if_pos hold]
      rw [if_pos hold, ← hsame]
      exact ih (by rwa [hsame])
    · have hmore : distinct (before ++ [candidate]) = distinct before ++ [candidate] := by
        rw [distinct_concat, if_neg hold]
      have hlength : (distinct (before ++ [candidate])).length = (distinct before).length + 1 := by
        rw [hmore, List.length_append, List.length_singleton]
      rw [if_neg hold]
      dsimp only
      rw [← hmore]
      by_cases hfull : limit ≤ (distinct (before ++ [candidate])).length
      · have henough : enough limit = (distinct (before ++ [candidate])).length := by
          rw [enough] at hfew ⊢
          omega
        rw [if_pos hfull, henough]
        exact List.prefix_iff_eq_take.mp (distinct_isPrefix _ _)
      · rw [if_neg hfull]
        refine ih ?_
        rw [enough]
        omega

theorem actionItems_eq_take (results : List FileResult) (limit : Int) :
    actionItems results limit = (distinct (actionCandidates results)).take (enough limit) := by
  have hnone : (distinct ([] : List String)).length < enough limit := by
    rw [enough]
    exact Nat.le_max_left 1 _
  have htaken := takeUp_distinct (actionCandidates results) hnone
  rwa [List.nil_append] at htaken

/-- Only for limits of one and more are the items as many as the limit says, unless there is nothing
to do. -/
theorem actionItems_eq_take_limit_iff (results : List FileResult) (limit : Int) :
    actionItems results limit = (distinct (actionCandidates results)).take limit.toNat ↔
      1 ≤ limit ∨ actionCandidates results = [] := by
  rw [actionItems_eq_take]
  constructor
  · intro heq
    by_cases hlimit : 1 ≤ limit
    · exact Or.inl hlimit
    · refine Or.inr ?_
      cases hcandidates : actionCandidates results with
      | nil => rfl
      | cons candidate rest =>
        -- the first candidate is taken
        have hzero : limit.toNat = 0 := by omega
        rw [hcandidates, distinct, enough, hzero, List.take_zero] at heq
        cases heq
  · rintro (hlimit | hnone)
    · rw [enough_of_pos hlimit]
    · rw [hnone, show distinct ([] : List String) = [] from rfl, List.take_nil, List.take_nil]

/-- **What to do first.** The items are the first of the distinct candidates, untested importers
before cycles and these before shared state, each kind in the order of the files. There are no more
of them than the limit says and than one, none is repeated, and where an item comes only after some
candidates, these are all items. They are as many as the limit says, or all if there are fewer,
exactly if the limit is one or more or there is nothing to do: under a limit of zero there is one
item. -/
theorem actionItems_first (results : List FileResult) (limit : Int) :
    actionItems results limit = (distinct (actionCandidates results)).take (enough limit) ∧
      (actionItems results limit).length ≤ max 1 limit ∧ (actionItems results limit).Nodup ∧
      (∀ earlier later, actionCandidates results = earlier ++ later →
        ∀ x ∈ actionItems results limit, x ∉ earlier →
          ∀ y ∈ earlier, y ∈ actionItems results limit) ∧
      (actionItems results limit = (distinct (actionCandidates results)).take limit.toNat ↔
        1 ≤ limit ∨ actionCandidates results = []) := by
  have htake := actionItems_eq_take results limit
  refine ⟨htake, ?_, ?_, fun earlier later hcut x hx hlate y hy => ?_,
    actionItems_eq_take_limit_iff results limit⟩
  · have hlength : (actionItems results limit).length ≤ enough limit := by
      rw [htake]
      exact List.length_take_le _ _
    rw [enough] at hlength
    omega
  · rw [htake]
    exact (nodup_distinct _).sublist (List.take_sublist _ _)
  · rw [htake, hcut] at hx ⊢
    exact mem_take_distinct_of_earlier hx hlate hy

/-- A file in a cycle with another. -/
def fileInCycle : FileResult :=
  { facts := { path := "a.ts" }
    score := { path := "a.ts", score := 100 }
    risk := { file := "a.ts", level := .high, circularDeps := ["b.ts"] } }

/-- Nothing may be taken, and something is. -/
theorem actionItems_of_zero :
    actionItems [fileInCycle] 0 = ["read b.ts before editing a.ts (circular dependency)"] ∧
      (distinct (actionCandidates [fileInCycle])).take (0 : Int).toNat = [] := by
  decide +kernel

end Preflight
