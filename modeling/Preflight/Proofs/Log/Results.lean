import Mathlib.Data.List.Forall2
import Preflight.Log.Logged

/-!
# When a computation has a result

A computation that is made from others has a result when these have, and the result is made from
theirs. For a computation on each member of a list this relates the list and the results member
by member.

## Main results

* `bind_eq_ok_iff`, `map_eq_ok_iff`, `mapError_eq_ok_iff`: results of compositions.
* `bind_eq_error_iff`, `map_eq_error_iff`, `mapError_eq_error_iff`: and their failures.
* `of_findM?_eq_some`, `of_findM?_eq_none`: what a search that may fail finds.
* `exists_forall₂_and_iff`, `exists_forall₂_of_forall₂`: two passes over a list as one, and one
  list in the place of another.
* `Logged.result_each_eq_ok_iff`: results for the members of a list.
-/

namespace Preflight

/-! ### Computations that may fail -/

theorem bind_eq_ok_iff {ε α β : Type} {x : Except ε α} {f : α → Except ε β} {b : β} :
    (x >>= f) = .ok b ↔ ∃ a, x = .ok a ∧ f a = .ok b := by
  cases x with
  | error e =>
    constructor
    · intro h
      cases h
    · rintro ⟨a, h, -⟩
      cases h
  | ok a =>
    constructor
    · intro h
      exact ⟨a, rfl, h⟩
    · rintro ⟨a', h, hf⟩
      cases h
      exact hf

theorem bind_eq_error_iff {ε α β : Type} {x : Except ε α} {f : α → Except ε β} {e : ε} :
    (x >>= f) = .error e ↔ x = .error e ∨ ∃ a, x = .ok a ∧ f a = .error e := by
  cases x with
  | error e' => simp [bind, Except.bind]
  | ok a => simp [bind, Except.bind]

/-- Two computations that can fail in one way only fail when one of them does. -/
theorem bind_eq_error_iff_or {ε α β : Type} {x : Except ε α} {f : α → Except ε β} {e : ε}
    (hx : ∀ e', x = .error e' → e' = e) {P : Prop} {e' : ε}
    (hf : ∀ a, f a = .error e' ↔ e' = e ∧ P) :
    (x >>= f) = .error e' ↔ e' = e ∧ (x = .error e ∨ P) := by
  cases x with
  | error e'' =>
    obtain rfl := hx e'' rfl
    simp [bind, Except.bind, eq_comm]
  | ok a => simpa [bind, Except.bind] using hf a

theorem map_eq_ok_iff {ε α β : Type} {x : Except ε α} {f : α → β} {b : β} :
    x.map f = .ok b ↔ ∃ a, x = .ok a ∧ f a = b := by
  cases x with
  | error e => simp [Except.map]
  | ok a => simp [Except.map]

theorem mapError_eq_ok_iff {ε ε' α : Type} {x : Except ε α} {f : ε → ε'} {a : α} :
    x.mapError f = .ok a ↔ x = .ok a := by
  cases x with
  | error e => simp [Except.mapError]
  | ok a => simp [Except.mapError]

theorem map_eq_error_iff {ε α β : Type} {x : Except ε α} {f : α → β} {e : ε} :
    x.map f = .error e ↔ x = .error e := by
  cases x with
  | error e' => simp [Except.map]
  | ok a => simp [Except.map]

theorem mapError_eq_error_iff {ε ε' α : Type} {x : Except ε α} {f : ε → ε'} {e : ε'} :
    x.mapError f = .error e ↔ ∃ e', x = .error e' ∧ f e' = e := by
  cases x with
  | error e' => simp [Except.mapError]
  | ok a => simp [Except.mapError]

/-- A computation for the members of a list that can fail in one way only fails when it does for one
of them. -/
theorem mapM_eq_error_iff {ε α β : Type} {f : α → Except ε β} {xs : List α} {e : ε}
    (h : ∀ x ∈ xs, ∀ e', f x = .error e' → e' = e) {e' : ε} :
    xs.mapM f = .error e' ↔ e' = e ∧ ∃ x ∈ xs, f x = .error e := by
  induction xs with
  | nil => simp [pure, Except.pure]
  | cons x rest ih =>
    obtain ⟨hx, hrest⟩ := List.forall_mem_cons.mp h
    rw [List.mapM_cons, bind_eq_error_iff, List.exists_mem_cons_iff]
    cases hfx : f x with
    | error e'' =>
      obtain rfl := hx e'' hfx
      simp [eq_comm]
    | ok y =>
      simp only [bind_eq_error_iff, ih hrest]
      simp [pure, Except.pure]

/-- A computation that can fail in one way only has a result unless it fails in that way. -/
theorem exists_eq_ok_iff_not {ε α : Type} {x : Except ε α} {e : ε} {P : Prop}
    (h : ∀ e', x = .error e' ↔ e' = e ∧ P) : (∃ a, x = .ok a) ↔ ¬P := by
  cases x with
  | ok a =>
    refine iff_of_true ⟨a, rfl⟩ fun hP => ?_
    cases (h e).mpr ⟨rfl, hP⟩
  | error e' => exact iff_of_false (by simp) (not_not_intro ((h e').mp rfl).2)

theorem exists_eq_ok {ε α : Type} {x : Except ε α} (h : x.isOk = true) : ∃ a, x = .ok a := by
  cases x with
  | error e => cases h
  | ok a => exact ⟨a, rfl⟩

/-! ### Searches in a list -/

section search

variable {ε α : Type} {p : α → Except ε Bool} {x : α} {xs rest : List α}

theorem findM?_cons_of_true (h : p x = .ok true) (rest : List α) :
    (x :: rest).findM? p = .ok (some x) := by
  rw [List.findM?, h]
  rfl

theorem findM?_cons_of_false (h : p x = .ok false) (rest : List α) :
    (x :: rest).findM? p = rest.findM? p := by
  rw [List.findM?, h]
  rfl

/-- The head of a list was looked at before anything was found in it. -/
theorem findM?_cons_cases {o : Option α} (h : (x :: rest).findM? p = .ok o) :
    p x = .ok true ∧ o = some x ∨ p x = .ok false ∧ rest.findM? p = .ok o := by
  cases hx : p x with
  | error e =>
    rw [List.findM?, hx] at h
    cases h
  | ok b =>
    cases b with
    | true =>
      rw [findM?_cons_of_true hx, Except.ok.injEq] at h
      exact Or.inl ⟨rfl, h.symm⟩
    | false =>
      rw [findM?_cons_of_false hx] at h
      exact Or.inr ⟨rfl, h⟩

/-- A search that ends with nothing has looked at all members of the list. -/
theorem of_findM?_eq_none (h : xs.findM? p = .ok none) : ∀ x ∈ xs, p x = .ok false := by
  induction xs with
  | nil => exact fun x hx => absurd hx List.not_mem_nil
  | cons x rest ih =>
    obtain ⟨-, hnone⟩ | ⟨hx, hrest⟩ := findM?_cons_cases h
    · cases hnone
    · exact List.forall_mem_cons.mpr ⟨hx, ih hrest⟩

/-- What a search finds is the first member of the list that passes. -/
theorem of_findM?_eq_some (h : xs.findM? p = .ok (some x)) :
    p x = .ok true ∧ ∃ before after, xs = before ++ x :: after ∧
      ∀ y ∈ before, p y = .ok false := by
  induction xs with
  | nil => cases h
  | cons y rest ih =>
    obtain ⟨hy, hsome⟩ | ⟨hy, hrest⟩ := findM?_cons_cases h
    · obtain rfl := Option.some.inj hsome
      exact ⟨hy, [], rest, rfl, nofun⟩
    · obtain ⟨hx, before, after, rfl, hbefore⟩ := ih hrest
      exact ⟨hx, y :: before, after, rfl, List.forall_mem_cons.mpr ⟨hy, hbefore⟩⟩

/-- What stops a search is a test on one of the members of the list. -/
theorem of_findM?_eq_error {e : ε} (h : xs.findM? p = .error e) : ∃ x ∈ xs, p x = .error e := by
  induction xs with
  | nil => cases h
  | cons x rest ih =>
    rw [List.exists_mem_cons_iff]
    rw [List.findM?, bind_eq_error_iff] at h
    rcases h with hx | ⟨b, -, h⟩
    · exact Or.inl hx
    · cases b with
      | true => cases h
      | false => exact Or.inr (ih h)

/-- A search ends where every test on the way does. -/
theorem exists_findM? (h : ∀ x ∈ xs, ∃ b, p x = .ok b) : ∃ o, xs.findM? p = .ok o := by
  induction xs with
  | nil => exact ⟨none, rfl⟩
  | cons x rest ih =>
    obtain ⟨⟨b, hb⟩, hrest⟩ := List.forall_mem_cons.mp h
    cases b with
    | true => exact ⟨some x, findM?_cons_of_true hb rest⟩
    | false =>
      rw [findM?_cons_of_false hb]
      exact ih hrest

end search

/-! ### Related lists -/

theorem exists_forall₂ {α β : Type} {R : α → β → Prop} {xs : List α}
    (h : ∀ x ∈ xs, ∃ y, R x y) : ∃ ys, List.Forall₂ R xs ys := by
  induction xs with
  | nil => exact ⟨[], .nil⟩
  | cons x rest ih =>
    obtain ⟨y, hxy⟩ := h x (List.mem_cons_self ..)
    obtain ⟨ys, hys⟩ := ih fun x' hx' => h x' (List.mem_cons_of_mem _ hx')
    exact ⟨y :: ys, .cons hxy hys⟩

theorem exists_mem_of_forall₂ {α β : Type} {R : α → β → Prop} {xs : List α} {ys : List β}
    (h : List.Forall₂ R xs ys) {y : β} (hy : y ∈ ys) : ∃ x ∈ xs, R x y := by
  induction h with
  | nil => cases hy
  | cons hR _ ih =>
    rcases List.mem_cons.mp hy with rfl | hy
    · exact ⟨_, List.mem_cons_self .., hR⟩
    · obtain ⟨x, hx, hxy⟩ := ih hy
      exact ⟨x, List.mem_cons_of_mem _ hx, hxy⟩

theorem exists_mem_of_forall₂_left {α β : Type} {R : α → β → Prop} {xs : List α} {ys : List β}
    (h : List.Forall₂ R xs ys) {x : α} (hx : x ∈ xs) : ∃ y ∈ ys, R x y :=
  exists_mem_of_forall₂ h.flip hx

/-- Where each pair of two related lists has a partner, there is a list of the partners. -/
theorem exists_forall₂_of_forall₂ {α β γ : Type} {R : α → β → Prop} {S : β → γ → Prop}
    {T : α → γ → Prop} {xs : List α} {ys : List β} (h : List.Forall₂ R xs ys)
    (hstep : ∀ x ∈ xs, ∀ y, R x y → ∃ z, S y z ∧ T x z) :
    ∃ zs, List.Forall₂ S ys zs ∧ List.Forall₂ T xs zs := by
  induction h with
  | nil => exact ⟨[], .nil, .nil⟩
  | cons hxy _ ih =>
    obtain ⟨z, hS, hT⟩ := hstep _ (List.mem_cons_self ..) _ hxy
    obtain ⟨zs, hSs, hTs⟩ := ih fun x hx => hstep x (List.mem_cons_of_mem _ hx)
    exact ⟨z :: zs, .cons hS hSs, .cons hT hTs⟩

/-- Two passes over a list are one, if the second looks at one member at a time. -/
theorem exists_forall₂_and_iff {α β γ : Type} {R : α → β → Prop} {S : β → γ → Prop}
    {xs : List α} {zs : List γ} :
    (∃ ys, List.Forall₂ R xs ys ∧ List.Forall₂ S ys zs) ↔
      List.Forall₂ (fun x z => ∃ y, R x y ∧ S y z) xs zs := by
  constructor
  · rintro ⟨ys, hR, hS⟩
    induction hR generalizing zs with
    | nil =>
      rw [List.forall₂_nil_left_iff.mp hS]
      exact .nil
    | cons hxy _ ih =>
      obtain ⟨z, zs', hyz, hS', rfl⟩ := List.forall₂_cons_left_iff.mp hS
      exact .cons ⟨_, hxy, hyz⟩ (ih hS')
  · intro h
    induction h with
    | nil => exact ⟨[], .nil, .nil⟩
    | cons hxz _ ih =>
      obtain ⟨y, hxy, hyz⟩ := hxz
      obtain ⟨ys, hR, hS⟩ := ih
      exact ⟨y :: ys, .cons hxy hR, .cons hyz hS⟩

/-! ### Computations for lists -/

/-- A computation for each member of a list has a result when there is one for every member. -/
theorem Logged.result_each_eq_ok_iff {ε α β : Type} {f : α → Logged ε β} {xs : List α}
    {ys : List β} :
    (Logged.each f xs).result = .ok ys ↔
      List.Forall₂ (fun x y => (f x).result = .ok y) xs ys := by
  induction xs generalizing ys with
  | nil =>
    rw [Logged.each, Logged.result_pure, List.forall₂_nil_left_iff, Except.ok.injEq]
    exact eq_comm
  | cons x rest ih =>
    rw [Logged.each, Logged.result_bind, bind_eq_ok_iff, List.forall₂_cons_left_iff]
    refine exists_congr fun y => ?_
    rw [Logged.result_bind, bind_eq_ok_iff, ← exists_and_left]
    refine exists_congr fun others => ?_
    rw [ih, Logged.result_pure, Except.ok.injEq, eq_comm (b := ys)]

end Preflight
