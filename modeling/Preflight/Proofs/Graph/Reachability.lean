import Preflight.Graph.Reach
import Mathlib.Logic.Relation

/-!
# The search finds what is reachable

The search keeps one invariant: whatever a visited member leads to has been visited or is still
to be visited. When nothing is left to visit, the visited members are therefore closed under
steps, and none of them was visited without a chain of steps from the start.

## Main results

* `mem_reachable_iff`: the members found from a list are those at the end of a chain of steps.
* `mem_reachable_next_iff`: those found from what a member leads to are those it `Reaches`.
* `reaches_iff_transGen`: `Reaches` is the transitive closure of a step.
-/

namespace Preflight

open Relation

variable {α : Type}

/-- One member leads to another in one step. -/
def Leads (next : α → List α) (x y : α) : Prop := y ∈ next x

/-- What a visited member leads to has been visited or is still to be visited. -/
def Covered (next : α → List α) (seen stack : List α) : Prop :=
  ∀ x ∈ seen, ∀ y ∈ next x, y ∈ seen ∨ y ∈ stack

theorem covered_nil (next : α → List α) (stack : List α) : Covered next [] stack := by
  intro x hx
  cases hx

/-- Visiting a member keeps the invariant: what it leads to is put before the rest. -/
theorem Covered.visit {next : α → List α} {seen stack : List α} {x : α}
    (h : Covered next seen (x :: stack)) : Covered next (x :: seen) (next x ++ stack) := by
  intro z hz y hy
  rcases List.mem_cons.mp hz with rfl | hz
  · exact Or.inr (List.mem_append_left _ hy)
  · rcases h z hz y hy with hseen | hstack
    · exact Or.inl (List.mem_cons_of_mem _ hseen)
    · rcases List.mem_cons.mp hstack with rfl | hstack
      · exact Or.inl (List.mem_cons_self ..)
      · exact Or.inr (List.mem_append_right _ hstack)

/-- Passing over a member that has been visited keeps the invariant. -/
theorem Covered.skip {next : α → List α} {seen stack : List α} {x : α}
    (h : Covered next seen (x :: stack)) (hx : x ∈ seen) : Covered next seen stack := by
  intro z hz y hy
  rcases h z hz y hy with hseen | hstack
  · exact Or.inl hseen
  · rcases List.mem_cons.mp hstack with rfl | hstack
    · exact Or.inl hx
    · exact Or.inr hstack

/-- A chain of steps from a visited member stays among the visited ones, or passes through one
that is still to be visited. -/
theorem Covered.reach {next : α → List α} {seen stack : List α} (h : Covered next seen stack)
    {x y : α} (hx : x ∈ seen) (hxy : ReflTransGen (Leads next) x y) :
    y ∈ seen ∨ ∃ z ∈ stack, ReflTransGen (Leads next) z y := by
  induction hxy using ReflTransGen.head_induction_on with
  | refl => exact Or.inl hx
  | @head a c hac hcy ih =>
    rcases h a hx c hac with hseen | hstack
    · exact ih hseen
    · exact Or.inr ⟨c, hstack, hcy⟩

variable [DecidableEq α]

theorem mem_explore_iff {next : α → List α} {everything : List α}
    (hnext : ∀ x, ∀ y ∈ next x, y ∈ everything) {seen stack : List α}
    (hstack : ∀ x ∈ stack, x ∈ everything) (hcov : Covered next seen stack) {y : α} :
    y ∈ explore next everything seen stack ↔
      y ∈ seen ∨ ∃ x ∈ stack, ReflTransGen (Leads next) x y := by
  fun_induction explore next everything seen stack with
  | case1 seen => simp
  | case2 seen x stack hx ih =>
    have hstack' : ∀ z ∈ next x ++ stack, z ∈ everything := by
      intro z hz
      rcases List.mem_append.mp hz with hz | hz
      · exact hnext x z hz
      · exact hstack z (List.mem_cons_of_mem _ hz)
    rw [ih hstack' hcov.visit]
    constructor
    · rintro (h | ⟨z, hz, hzy⟩)
      · rcases List.mem_cons.mp h with rfl | h
        · exact Or.inr ⟨_, List.mem_cons_self .., ReflTransGen.refl⟩
        · exact Or.inl h
      · rcases List.mem_append.mp hz with hz | hz
        · exact Or.inr ⟨x, List.mem_cons_self .., ReflTransGen.head hz hzy⟩
        · exact Or.inr ⟨z, List.mem_cons_of_mem _ hz, hzy⟩
    · rintro (h | ⟨z, hz, hzy⟩)
      · exact Or.inl (List.mem_cons_of_mem _ h)
      · rcases List.mem_cons.mp hz with rfl | hz
        · -- a chain from the visited member is empty or starts with one of its steps
          rcases ReflTransGen.cases_head hzy with rfl | ⟨c, hc, hcy⟩
          · exact Or.inl (List.mem_cons_self ..)
          · exact Or.inr ⟨c, List.mem_append_left _ hc, hcy⟩
        · exact Or.inr ⟨z, List.mem_append_right _ hz, hzy⟩
  | case3 seen x stack hx ih =>
    have hseen : x ∈ seen := Decidable.byContradiction fun hne =>
      hx ⟨hstack x (List.mem_cons_self ..), hne⟩
    rw [ih (fun z hz => hstack z (List.mem_cons_of_mem _ hz)) (hcov.skip hseen)]
    constructor
    · rintro (h | ⟨z, hz, hzy⟩)
      · exact Or.inl h
      · exact Or.inr ⟨z, List.mem_cons_of_mem _ hz, hzy⟩
    · rintro (h | ⟨z, hz, hzy⟩)
      · exact Or.inl h
      · rcases List.mem_cons.mp hz with rfl | hz
        · exact (hcov.skip hseen).reach hseen hzy
        · exact Or.inr ⟨z, hz, hzy⟩

/-- **The search is exact.** The members found from a list are those at the end of a chain of
steps from one of its members. -/
theorem mem_reachable_iff {next : α → List α} {everything : List α}
    (hnext : ∀ x, ∀ y ∈ next x, y ∈ everything) {start : List α}
    (hstart : ∀ x ∈ start, x ∈ everything) {y : α} :
    y ∈ reachable next everything start ↔ ∃ x ∈ start, ReflTransGen (Leads next) x y := by
  rw [reachable, mem_explore_iff hnext hstart (covered_nil next start)]
  simp

omit [DecidableEq α] in
theorem reaches_iff_transGen {next : α → List α} {x y : α} :
    Reaches next x y ↔ TransGen (Leads next) x y := by
  constructor
  · intro h
    induction h with
    | step h => exact TransGen.single h
    | trans h _ ih => exact TransGen.head h ih
  · intro h
    induction h using TransGen.head_induction_on with
    | single h => exact Reaches.step h
    | head h _ ih => exact Reaches.trans h ih

/-- What is found from the members one leads to is what it reaches by one step or more. -/
theorem mem_reachable_next_iff {next : α → List α} {everything : List α}
    (hnext : ∀ x, ∀ y ∈ next x, y ∈ everything) {x y : α} :
    y ∈ reachable next everything (next x) ↔ Reaches next x y := by
  rw [mem_reachable_iff hnext (hnext x), reaches_iff_transGen, TransGen.head'_iff]
  rfl

end Preflight
