import Preflight.Listing

/-!
# Reachability

The members of a finite universe that can be reached from some of its members, found by a search
that visits each member once.

## Main definitions

* `workLeft`: what a search has still to do at most.
* `explore`: the members visited by a search from a list of members still to visit.
* `reachable`: the members of a universe reached from a list by one step after another.
* `Reaches`: one member is reached from another by one or more steps.
-/

namespace Preflight

variable {α : Type} [DecidableEq α]

/-- The members of a universe that have not been seen. -/
def unseen (everything seen : List α) : List α := everything.filter (· ∉ seen)

/-- How much a search has still to do at most: to visit each member that has not been seen, and
to look at what it leads to. -/
def workLeft (next : α → List α) (everything seen : List α) : Nat :=
  ((unseen everything seen).flatMap fun x => x :: next x).length

omit [DecidableEq α] in
theorem length_flatMap_filter_le (f : α → List α) (p : α → Bool) (xs : List α) :
    ((xs.filter p).flatMap f).length ≤ (xs.flatMap f).length := by
  induction xs with
  | nil => exact Nat.le_refl _
  | cons x rest ih =>
    rw [List.filter_cons, List.flatMap_cons, List.length_append]
    split
    · rw [List.flatMap_cons, List.length_append]
      omega
    · omega

theorem length_flatMap_filter_ne_add_le {f : α → List α} {x : α} {xs : List α} (h : x ∈ xs) :
    ((xs.filter (· ≠ x)).flatMap f).length + (f x).length ≤ (xs.flatMap f).length := by
  induction xs with
  | nil => cases h
  | cons y rest ih =>
    rw [List.flatMap_cons, List.length_append]
    by_cases hy : y = x
    · subst hy
      have hrest := length_flatMap_filter_le f (· ≠ y) rest
      rw [List.filter_cons_of_neg (by simp)]
      omega
    · have hrest := ih ((List.mem_cons.mp h).resolve_left (Ne.symm hy))
      rw [List.filter_cons_of_pos (by simpa using hy), List.flatMap_cons, List.length_append]
      omega

/-- Visiting a member takes away what it leads to from the work that is left. -/
theorem workLeft_cons_lt {next : α → List α} {everything seen : List α} {x : α}
    (h : x ∈ everything) (hs : x ∉ seen) :
    workLeft next everything (x :: seen) + (next x).length < workLeft next everything seen := by
  have hsub : unseen everything (x :: seen) = (unseen everything seen).filter (· ≠ x) := by
    simp only [unseen, List.filter_filter]
    congr 1
    funext y
    simp only [List.mem_cons, not_or, ne_eq, Bool.decide_and, decide_not]
  have hmem : x ∈ unseen everything seen := by simp [unseen, h, hs]
  have hlength := length_flatMap_filter_ne_add_le (f := fun y => y :: next y) hmem
  rw [List.length_cons] at hlength
  rw [workLeft, workLeft, hsub]
  omega

/-- The members visited by a search: take the next member still to visit and, where it is new,
visit what it leads to. -/
def explore (next : α → List α) (everything seen : List α) : List α → List α
  | [] => seen
  | x :: stack =>
    if _h : x ∈ everything ∧ x ∉ seen then explore next everything (x :: seen) (next x ++ stack)
    else explore next everything seen stack
termination_by stack => workLeft next everything seen + stack.length
decreasing_by
  · have : workLeft next everything (x :: seen) + (next x).length <
        workLeft next everything seen := workLeft_cons_lt _h.1 _h.2
    rw [List.length_append, List.length_cons]
    omega
  · rw [List.length_cons]
    omega

/-- The members of a universe reached from a list, the list included. -/
def reachable (next : α → List α) (everything start : List α) : List α :=
  explore next everything [] start

/-- One member is reached from another by one or more steps. -/
inductive Reaches (next : α → List α) : α → α → Prop where
  | step {x y : α} : y ∈ next x → Reaches next x y
  | trans {x y z : α} : y ∈ next x → Reaches next y z → Reaches next x z

end Preflight
