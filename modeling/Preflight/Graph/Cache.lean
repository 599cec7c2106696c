import Preflight.Graph.Dependencies
import Preflight.Log.Logged
import Preflight.Path

/-!
# Cached import graphs

A run keeps at most one import graph for each project, under the real path of the project, and
counts the graphs that were built. A failure to build leaves nothing behind, so that the next
run tries again.

## Main definitions

* `GraphCache`: graphs by project.
* `GraphCache.get?`, `store`, `clear`: access to them.
* `GraphCache.getOrBuild`: a graph from the cache, or one built now.
-/

namespace Preflight

/-- Import graphs by project, and the number of graphs built so far. -/
structure GraphCache where
  entries : List (Path × Dependencies) := []
  builds : Nat := 0
  deriving Inhabited

namespace GraphCache

/-- The graph of a project. -/
def get? (c : GraphCache) (project : Path) : Option Dependencies := c.entries.lookup project

/-- There is a graph of a project. -/
def contains (c : GraphCache) (project : Path) : Bool := (c.get? project).isSome

/-- The number of projects with a graph. -/
def size (c : GraphCache) : Nat := c.entries.length

/-- Entries with the graph of a project set. -/
def setEntry (project : Path) (g : Dependencies) :
    List (Path × Dependencies) → List (Path × Dependencies)
  | [] => [(project, g)]
  | (p, old) :: rest =>
    if p = project then (project, g) :: rest else (p, old) :: setEntry project g rest

/-- A cache with the graph of a project set. -/
def store (c : GraphCache) (project : Path) (g : Dependencies) : GraphCache :=
  { c with entries := setEntry project g c.entries }

/-- A cache without graphs. What was built stays counted. -/
def clear (c : GraphCache) : GraphCache := { c with entries := [] }

/-- The graph of a project, built if there is none yet, and the cache after that. -/
def getOrBuild {ε : Type} (c : GraphCache) (project : Path)
    (build : Path → Logged ε Dependencies) : Logged ε Dependencies × GraphCache :=
  match c.get? project with
  | some g => (pure g, c)
  | none =>
    let built := build project
    match built.result with
    | .ok g => (built, { c.store project g with builds := c.builds + 1 })
    | .error _ => (built, c)

/-! ### Access after changes -/

theorem lookup_setEntry (project p : Path) (g : Dependencies)
    (entries : List (Path × Dependencies)) :
    (setEntry project g entries).lookup p =
      if p = project then some g else entries.lookup p := by
  induction entries with
  | nil =>
    by_cases h : p = project
    · simp [setEntry, h]
    · simp [setEntry, List.lookup_cons, h, beq_eq_false_iff_ne.2 h]
  | cons entry rest ih =>
    obtain ⟨q, old⟩ := entry
    by_cases hq : q = project
    · subst hq
      by_cases h : p = q
      · simp [setEntry, h]
      · simp [setEntry, List.lookup_cons, h, beq_eq_false_iff_ne.2 h]
    · by_cases h : p = q
      · subst h
        simp [setEntry, hq]
      · simp [setEntry, List.lookup_cons, hq, beq_eq_false_iff_ne.2 h, ih]

@[simp] theorem get?_store (c : GraphCache) (project p : Path) (g : Dependencies) :
    (c.store project g).get? p = if p = project then some g else c.get? p :=
  lookup_setEntry project p g c.entries

@[simp] theorem get?_clear (c : GraphCache) (p : Path) : c.clear.get? p = none := rfl

@[simp] theorem builds_store (c : GraphCache) (project : Path) (g : Dependencies) :
    (c.store project g).builds = c.builds := rfl

@[simp] theorem builds_clear (c : GraphCache) : c.clear.builds = c.builds := rfl

theorem get?_of_entries_eq_nil {c : GraphCache} (h : c.entries = []) (p : Path) :
    c.get? p = none := by
  rw [get?, h]
  rfl

/-! ### Coming by a graph -/

section getOrBuild

variable {ε : Type} {c c₁ c₂ : GraphCache} {project : Path}
  {build : Path → Logged ε Dependencies} {g : Dependencies}

theorem getOrBuild_eq_of_some (h : c.get? project = some g) :
    c.getOrBuild project build = (pure g, c) := by
  rw [getOrBuild, h]

theorem getOrBuild_eq_of_ok (h : c.get? project = none) (hbuild : (build project).result = .ok g) :
    c.getOrBuild project build =
      (build project, { c.store project g with builds := c.builds + 1 }) := by
  rw [getOrBuild, h]
  dsimp only
  rw [hbuild]

theorem getOrBuild_eq_of_error {e : ε} (h : c.get? project = none)
    (hbuild : (build project).result = .error e) :
    c.getOrBuild project build = (build project, c) := by
  rw [getOrBuild, h]
  dsimp only
  rw [hbuild]

theorem getOrBuild_of_get?_eq_some (h : c.get? project = some g) :
    (c.getOrBuild project build).1 = pure g := by
  rw [getOrBuild_eq_of_some h]

theorem getOrBuild_of_get?_eq_none (h : c.get? project = none) :
    (c.getOrBuild project build).1 = build project := by
  cases hbuild : (build project).result with
  | ok g => rw [getOrBuild_eq_of_ok h hbuild]
  | error e => rw [getOrBuild_eq_of_error h hbuild]

/-- Of a cache, only the graph of the project counts. -/
theorem getOrBuild_congr (h : c₁.get? project = c₂.get? project) :
    (c₁.getOrBuild project build).1 = (c₂.getOrBuild project build).1 := by
  cases hget : c₂.get? project with
  | some g =>
    rw [getOrBuild_of_get?_eq_some hget, getOrBuild_of_get?_eq_some (h.trans hget)]
  | none =>
    rw [getOrBuild_of_get?_eq_none hget, getOrBuild_of_get?_eq_none (h.trans hget)]

theorem builds_getOrBuild (h : c.get? project = none) :
    (c.getOrBuild project build).2.builds =
      c.builds + if (build project).result.isOk then 1 else 0 := by
  cases hbuild : (build project).result with
  | ok g =>
    rw [getOrBuild_eq_of_ok h hbuild]
    rfl
  | error e =>
    rw [getOrBuild_eq_of_error h hbuild]
    rfl

end getOrBuild

end GraphCache

end Preflight
