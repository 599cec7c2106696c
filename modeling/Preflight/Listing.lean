/-!
# Lists without repetition, and sorted lists

## Main definitions

* `distinct`: the first occurrence of every member of a list.
* `comesNoLater`: the order of lists, member by member.
* `sorted`: a list of strings in the order of their characters.
* `sortedSet`: its members in that order, each once.

## Main results

* `mem_distinct`, `nodup_distinct`: nothing is lost and nothing is repeated.
* `mem_sortedSet`, `sortedSet_pairwise`: a sorted set has the members of the list, and each comes
  strictly before the next.
* `eq_of_pairwise_lt`, `sortedSet_ext`: so it is determined by its members.
-/

namespace Preflight

/-- The first occurrence of every member of a list. -/
def distinct {α : Type} [DecidableEq α] : List α → List α
  | [] => []
  | x :: xs => x :: (distinct xs).filter (· ≠ x)

/-- A list of strings comes no later than another: where they first differ its member is the
smaller one, or it ends there. -/
def comesNoLater (a b : List String) : Bool := !b.lex a fun x y => decide (x < y)

/-- A list of strings in the order of their characters. -/
def sorted (xs : List String) : List String := xs.mergeSort fun a b => decide (a ≤ b)

/-- The members of a list of strings in the order of their characters, each once. -/
def sortedSet (xs : List String) : List String := sorted (distinct xs)

section distinct

variable {α : Type} [DecidableEq α]

@[simp] theorem mem_distinct {x : α} {xs : List α} : x ∈ distinct xs ↔ x ∈ xs := by
  induction xs with
  | nil => simp [distinct]
  | cons y xs ih =>
    by_cases h : x = y
    · simp [distinct, h]
    · simp [distinct, ih, h]

theorem nodup_distinct (xs : List α) : (distinct xs).Nodup := by
  induction xs with
  | nil => simp [distinct]
  | cons y xs ih =>
    rw [distinct, List.nodup_cons]
    exact ⟨by simp, ih.sublist List.filter_sublist⟩

/-- What comes after a list adds the members that are new, behind those of the list. -/
theorem distinct_append (xs ys : List α) :
    distinct (xs ++ ys) = distinct xs ++ (distinct ys).filter fun y => !xs.contains y := by
  induction xs with
  | nil => simp [distinct, List.filter_eq_self.mpr]
  | cons x xs ih =>
    rw [List.cons_append, distinct, distinct, ih, List.filter_append, List.cons_append,
      List.filter_filter]
    congr 2
    refine List.filter_congr fun y _ => ?_
    by_cases h : y = x
    · simp [h]
    · simp [h]

theorem distinct_of_nodup {xs : List α} (h : xs.Nodup) : distinct xs = xs := by
  induction xs with
  | nil => rfl
  | cons y xs ih =>
    rw [List.nodup_cons] at h
    rw [distinct, ih h.2, List.filter_eq_self.2]
    intro z hz
    simp only [ne_eq, decide_not, Bool.not_eq_eq_eq_not, Bool.not_true, decide_eq_false_iff_not]
    rintro rfl
    exact h.1 hz

end distinct

theorem sorted_perm (xs : List String) : (sorted xs).Perm xs := List.mergeSort_perm _ _

@[simp] theorem mem_sorted {x : String} {xs : List String} : x ∈ sorted xs ↔ x ∈ xs :=
  (sorted_perm xs).mem_iff

theorem sorted_pairwise (xs : List String) : (sorted xs).Pairwise (· ≤ ·) := by
  have : (sorted xs).Pairwise fun a b => decide (a ≤ b) = true :=
    List.pairwise_mergeSort
      (fun a b c hab hbc => by
        simp only [decide_eq_true_eq] at *
        exact String.le_trans hab hbc)
      (fun a b => by
        rcases String.le_total a b with h | h <;> simp [h]) xs
  simpa using this

@[simp] theorem mem_sortedSet {x : String} {xs : List String} : x ∈ sortedSet xs ↔ x ∈ xs := by
  simp [sortedSet]

theorem sortedSet_nodup (xs : List String) : (sortedSet xs).Nodup :=
  (sorted_perm _).nodup_iff.2 (nodup_distinct xs)

/-- Each member of a sorted set comes strictly before the next. -/
theorem sortedSet_pairwise (xs : List String) : (sortedSet xs).Pairwise (· < ·) := by
  have h := (sorted_pairwise (distinct xs)).and (sortedSet_nodup xs)
  refine h.imp fun {a b} hab => ?_
  rcases Decidable.em (a < b) with h | h
  · exact h
  · exact absurd (String.le_antisymm hab.1 (String.not_lt.1 h)) hab.2

/-- Two lists in strict order with the same members are the same. -/
theorem eq_of_pairwise_lt {xs ys : List String} (hxs : xs.Pairwise (· < ·))
    (hys : ys.Pairwise (· < ·)) (h : ∀ x, x ∈ xs ↔ x ∈ ys) : xs = ys := by
  have hnodup : ∀ {zs : List String}, zs.Pairwise (· < ·) → zs.Nodup := by
    intro zs hzs
    refine hzs.imp fun {a b} hab => ?_
    rintro rfl
    exact String.lt_irrefl a hab
  have hperm : xs.Perm ys := (List.perm_ext_iff_of_nodup (hnodup hxs) (hnodup hys)).2 h
  refine List.Perm.eq_of_pairwise (fun a b _ _ hab hba => ?_) hxs hys hperm
  exact absurd (String.lt_trans hab hba) (String.lt_irrefl a)

/-- A sorted set is determined by its members. -/
theorem sortedSet_ext {xs ys : List String} (h : ∀ x, x ∈ xs ↔ x ∈ ys) :
    sortedSet xs = sortedSet ys :=
  eq_of_pairwise_lt (sortedSet_pairwise xs) (sortedSet_pairwise ys) (by simpa using h)

end Preflight
