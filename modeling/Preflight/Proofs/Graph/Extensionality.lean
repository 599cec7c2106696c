import Preflight.Proofs.Graph.Cycles

/-!
# Dependencies are determined by imports

What is looked up in an import graph depends on which files there are and which imports which, and
on nothing else of their texts. Conversely the look-ups show every import, so that two projects with
the same files have the same dependencies exactly where they have the same imports.

## Main results

* `dependencies_eq_iff`: the dependencies of projects with the same files.
-/

namespace Preflight

open Relation

variable {sources sources' : List (FileId × String)} {m n : FileId}

namespace ImportGraph

theorem importersOf_congr (h : ∀ m n, Imports sources m n ↔ Imports sources' m n) (n : FileId) :
    (ofSources sources).importersOf n = (ofSources sources').importersOf n := by
  have hmem : ∀ m, m ∈ (ofSources sources).importersOf n ↔
      m ∈ (ofSources sources').importersOf n := by
    intro m
    rw [mem_importersOf_iff, mem_importersOf_iff, mem_edges_ofSources, mem_edges_ofSources, h]
  simp only [importersOf, mem_sortedSet] at hmem
  exact sortedSet_ext hmem

/-- The group of a file, as a selection of the files of the graph. -/
theorem component_eq_filter (hn : n ∈ (ofSources sources).nodes) :
    component (ofSources sources).descendants n =
      (ofSources sources).nodes.filter fun m =>
        m == n || (((ofSources sources).leadsTo ((ofSources sources).imports n)).contains m &&
          ((ofSources sources).leadsTo ((ofSources sources).imports m)).contains n) := by
  rw [component]
  dsimp only
  rw [lookup_descendants hn, descendants, List.filter_map, List.map_map]
  exact List.map_id _

theorem component_congr (hnodes : (ofSources sources).nodes = (ofSources sources').nodes)
    (h : Imports sources = Imports sources') (hn : n ∈ (ofSources sources).nodes) :
    component (ofSources sources).descendants n =
      component (ofSources sources').descendants n := by
  have hleads : ∀ a b,
      ((ofSources sources).leadsTo ((ofSources sources).imports a)).contains b =
        ((ofSources sources').leadsTo ((ofSources sources').imports a)).contains b := by
    intro a b
    rw [Bool.eq_iff_iff, List.contains_iff_mem, List.contains_iff_mem, mem_leadsTo_imports,
      mem_leadsTo_imports, h]
  rw [component_eq_filter hn, component_eq_filter (hnodes ▸ hn), hnodes]
  exact List.filter_congr fun m _ => by rw [hleads, hleads]

theorem groups_congr (hnodes : (ofSources sources).nodes = (ofSources sources').nodes)
    (h : Imports sources = Imports sources') :
    (ofSources sources).groups = (ofSources sources').groups := by
  have hcomponents : (ofSources sources).nodes.map (component (ofSources sources).descendants) =
      (ofSources sources').nodes.map (component (ofSources sources').descendants) := by
    rw [← hnodes]
    exact List.map_congr_left fun n hn => component_congr hnodes h hn
  rw [groups, groups, hcomponents]

theorem selfImports_congr (hnodes : (ofSources sources).nodes = (ofSources sources').nodes)
    (h : Imports sources = Imports sources') :
    (ofSources sources).selfImports = (ofSources sources').selfImports := by
  have hself : ∀ id, ((ofSources sources).imports id).contains id =
      ((ofSources sources').imports id).contains id := by
    intro id
    rw [Bool.eq_iff_iff, List.contains_iff_mem, List.contains_iff_mem, mem_imports_iff,
      mem_imports_iff, mem_edges_ofSources, mem_edges_ofSources, h]
  simp only [selfImports, hnodes, hself]

theorem cycles_congr (hnodes : (ofSources sources).nodes = (ofSources sources').nodes)
    (h : Imports sources = Imports sources') :
    (ofSources sources).cycles = (ofSources sources').cycles := by
  rw [cycles, cycles, groups_congr hnodes h, selfImports_congr hnodes h]

theorem incoming_congr (hnodes : (ofSources sources).nodes = (ofSources sources').nodes)
    (h : ∀ m n, Imports sources m n ↔ Imports sources' m n) :
    (ofSources sources).incoming = (ofSources sources').incoming := by
  rw [incoming, incoming, hnodes, funext (importersOf_congr h)]

/-- A self-import shows as a cycle of one file. -/
theorem singleton_mem_cycles_iff : [n] ∈ (ofSources sources).cycles ↔ Imports sources n n := by
  rw [mem_cycles_iff]
  constructor
  · rintro (hgroup | ⟨id, hid, heq⟩)
    · obtain ⟨-, -, -, hlength⟩ := mem_groups_iff.mp hgroup
      exact absurd hlength (by simp)
    · obtain rfl := List.singleton_inj.mp heq
      exact hid
  · intro hid
    exact Or.inr ⟨n, hid, rfl⟩

end ImportGraph

/-- **Dependencies are determined by imports.** Projects with the same files have the same
dependencies exactly where they have the same imports. -/
theorem dependencies_eq_iff (hids : sources.map (·.1) = sources'.map (·.1)) :
    (ImportGraph.ofSources sources).dependencies = (ImportGraph.ofSources sources').dependencies ↔
      ∀ m n, Imports sources m n ↔ Imports sources' m n := by
  have hnodes : (ImportGraph.ofSources sources).nodes = (ImportGraph.ofSources sources').nodes :=
    congrArg sortedSet hids
  constructor
  · intro h m n
    by_cases hn : n ∈ sources.map (·.1)
    · by_cases hmn : m = n
      · -- a file is none of its own importers, but in a cycle
        subst hmn
        have hcycles : (ImportGraph.ofSources sources).cycles =
            (ImportGraph.ofSources sources').cycles := congrArg Dependencies.cycles h
        rw [← ImportGraph.singleton_mem_cycles_iff, ← ImportGraph.singleton_mem_cycles_iff, hcycles]
      · have hthere := mem_importers_dependencies (m := m) hn
        have hhere := mem_importers_dependencies (m := m) (hids ▸ hn)
        rw [h, hhere] at hthere
        simpa [hmn] using hthere.symm
    · exact iff_of_false (fun h => hn h.right_mem) (fun h => hn (hids ▸ h.right_mem))
  · intro h
    have himports : Imports sources = Imports sources' := by
      funext m n
      exact propext (h m n)
    rw [ImportGraph.dependencies, ImportGraph.dependencies,
      ImportGraph.cycles_congr hnodes himports, ImportGraph.incoming_congr hnodes h, hnodes]

end Preflight
