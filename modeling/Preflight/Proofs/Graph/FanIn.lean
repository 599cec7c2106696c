import Preflight.Proofs.Graph.Lookup

/-!
# The fan-in index is exact

The importers that are looked up for a file of a project are the other files one of whose
specifiers names it, in strict order. An edge never brings a file into the graph, the order in
which the files are given does not matter, and a file of the same stem with another suffix
counts for nothing but its own imports.

## Main definitions

* `Imports`: a file of a project imports another.

## Main results

* `ImportGraph.mem_edges_ofSources`: the edges of the graph are the imports.
* `fanIn_exact`: the files of the graph and the importers of each.
-/

namespace Preflight

/-! ### Imports -/

/-- A file of a project imports another: one of its specifiers is resolved to it. -/
def Imports (sources : List (FileId × String)) (m n : FileId) : Prop :=
  ∃ text, (m, text) ∈ sources ∧ ∃ spec ∈ importSpecifiers text.toList,
    resolveSpecifier? spec m (sources.map (·.1)) = some n

variable {sources : List (FileId × String)} {m n : FileId}

instance : Decidable (Imports sources m n) :=
  decidable_of_iff (∃ entry ∈ sources, entry.1 = m ∧ ∃ spec ∈ importSpecifiers entry.2.toList,
      resolveSpecifier? spec m (sources.map (·.1)) = some n) <| by
    constructor
    · rintro ⟨⟨_, text⟩, hsource, rfl, hspec⟩
      exact ⟨text, hsource, hspec⟩
    · rintro ⟨text, hsource, hspec⟩
      exact ⟨(m, text), hsource, rfl, hspec⟩

theorem Imports.left_mem (h : Imports sources m n) : m ∈ sources.map (·.1) := by
  obtain ⟨text, hm, -⟩ := h
  exact List.mem_map.mpr ⟨(m, text), hm, rfl⟩

theorem Imports.right_mem (h : Imports sources m n) : n ∈ sources.map (·.1) := by
  obtain ⟨-, -, spec, -, hn⟩ := h
  exact resolveSpecifier?_mem hn

/-- Only which files a project has matters to what a specifier names. -/
theorem resolveSpecifier?_congr {files files' : List FileId} (h : ∀ f, f ∈ files ↔ f ∈ files')
    (spec : String) (importer : FileId) :
    resolveSpecifier? spec importer files = resolveSpecifier? spec importer files' := by
  have hcontains : files.contains = files'.contains := by
    funext f
    rw [Bool.eq_iff_iff, List.contains_iff_mem, List.contains_iff_mem]
    exact h f
  rw [resolveSpecifier?, resolveSpecifier?, hcontains]

/-- The imports of a project do not depend on the order in which its files are given. -/
theorem imports_perm {enumeration : List (FileId × String)} (h : enumeration.Perm sources) :
    Imports enumeration m n ↔ Imports sources m n := by
  have hfiles : ∀ f, f ∈ enumeration.map (·.1) ↔ f ∈ sources.map (·.1) :=
    fun f => (h.map _).mem_iff
  refine exists_congr fun text => and_congr h.mem_iff (exists_congr fun spec => ?_)
  rw [resolveSpecifier?_congr hfiles]

/-! ### The graph -/

namespace ImportGraph

theorem mem_nodes_ofSources {id : FileId} :
    id ∈ (ofSources sources).nodes ↔ id ∈ sources.map (·.1) := mem_sortedSet

theorem nodes_ofSources_pairwise : (ofSources sources).nodes.Pairwise (· < ·) :=
  sortedSet_pairwise _

theorem mem_importedFiles {files : List FileId} {text : String} :
    n ∈ importedFiles files m text ↔
      ∃ spec ∈ importSpecifiers text.toList, resolveSpecifier? spec m files = some n := by
  rw [importedFiles, List.mem_filterMap]

/-- The edges of the graph are the imports of the project. -/
theorem mem_edges_ofSources : (m, n) ∈ (ofSources sources).edges ↔ Imports sources m n := by
  simp only [ofSources, mem_distinct, List.mem_flatMap, List.mem_map, Prod.mk.injEq]
  constructor
  · rintro ⟨⟨importer, text⟩, hsource, imported, himported, rfl, rfl⟩
    exact ⟨text, hsource, mem_importedFiles.mp himported⟩
  · rintro ⟨text, hsource, hspec⟩
    exact ⟨(m, text), hsource, n, mem_importedFiles.mpr hspec, rfl, rfl⟩

/-- An edge leads from a file of the project to a file of the project. -/
theorem edge_mem_nodes {edge : FileId × FileId} (h : edge ∈ (ofSources sources).edges) :
    edge.1 ∈ (ofSources sources).nodes ∧ edge.2 ∈ (ofSources sources).nodes := by
  have himports : Imports sources edge.1 edge.2 := mem_edges_ofSources.mp h
  exact ⟨mem_nodes_ofSources.mpr himports.left_mem, mem_nodes_ofSources.mpr himports.right_mem⟩

theorem mem_imports_iff {g : ImportGraph} : n ∈ g.imports m ↔ (m, n) ∈ g.edges := by
  simp only [imports, List.mem_map, List.mem_filter, beq_iff_eq]
  constructor
  · rintro ⟨⟨a, b⟩, ⟨hedge, rfl⟩, rfl⟩
    exact hedge
  · intro hedge
    exact ⟨(m, n), ⟨hedge, rfl⟩, rfl⟩

theorem mem_importersOf_iff {g : ImportGraph} :
    m ∈ g.importersOf n ↔ m ≠ n ∧ (m, n) ∈ g.edges := by
  simp only [importersOf, mem_sortedSet, List.mem_map, List.mem_filter, Bool.and_eq_true,
    beq_iff_eq, bne_iff_ne]
  constructor
  · rintro ⟨⟨a, b⟩, ⟨hedge, rfl, hne⟩, rfl⟩
    exact ⟨hne, hedge⟩
  · rintro ⟨hne, hedge⟩
    exact ⟨(m, n), ⟨hedge, rfl, hne⟩, rfl⟩

/-- Leaving out the files that nobody imports changes no look-up. -/
theorem indexed_filter_nonempty {β : Type} (f : FileId → List β) (k : FileId)
    (xs : List FileId) :
    indexed ((xs.map fun id => (id, f id)).filter fun entry => !entry.2.isEmpty) k =
      if k ∈ xs then f k else [] := by
  induction xs with
  | nil => simp [indexed]
  | cons x xs ih =>
    by_cases hx : f x = []
    · -- the entry is left out, and its list is what a failed look-up gives
      rw [List.map_cons, List.filter_cons_of_neg (by simp [hx]), ih]
      by_cases h : k = x
      · subst h
        simp [hx]
      · simp [h]
    · rw [List.map_cons, List.filter_cons_of_pos (by simp [hx])]
      by_cases h : k = x
      · simp [indexed, h]
      · rw [indexed, List.lookup_cons, beq_eq_false_iff_ne.2 h]
        simpa [h, indexed] using ih

theorem indexed_incoming {g : ImportGraph} (h : n ∈ g.nodes) :
    indexed g.incoming n = g.importersOf n := by
  rw [incoming, indexed_filter_nonempty, if_pos h]

end ImportGraph

/-! ### The dependencies -/

theorem Dependencies.mem_knownIds_of_mem_nodes (cycles : List (List FileId))
    (incoming : List (FileId × List FileId)) {nodes : List FileId} {id : FileId}
    (h : id ∈ nodes) : id ∈ knownIds cycles incoming nodes :=
  mem_sortedSet.mpr (List.mem_append_left _ (List.mem_append_left _ h))

/-- A file of the graph is looked up as itself, whatever other files have its stem. -/
theorem ImportGraph.resolve_dependencies {g : ImportGraph} {id : FileId} (h : id ∈ g.nodes) :
    g.dependencies.resolve id = [id] :=
  Dependencies.resolve_of_known _ _ _ (Dependencies.mem_knownIds_of_mem_nodes _ _ h)

theorem mem_importers_dependencies (h : n ∈ sources.map (·.1)) :
    m ∈ (ImportGraph.ofSources sources).dependencies.importers n ↔
      m ≠ n ∧ Imports sources m n := by
  have hn : n ∈ (ImportGraph.ofSources sources).nodes := ImportGraph.mem_nodes_ofSources.mpr h
  rw [ImportGraph.dependencies, Dependencies.mem_importers_of_iff, ← ImportGraph.dependencies,
    ImportGraph.resolve_dependencies hn]
  simp only [List.mem_singleton, exists_eq_left, ImportGraph.indexed_incoming hn,
    ImportGraph.mem_importersOf_iff, ImportGraph.mem_edges_ofSources]
  exact and_self_left

theorem importers_pairwise (d : Dependencies) (id : FileId) :
    (d.importers id).Pairwise (· < ·) := sortedSet_pairwise _

/-- **The fan-in index is exact.** However the files of a project are enumerated, its graph has
these files and no others, in strict order, and the importers looked up for a file are, in
strict order, the other files that import it. A twin, which differs from the file in its suffix
alone, is an importer only by an import of its own, and what imports the twin is no importer of
the file for that. -/
theorem fanIn_exact {sources enumeration : List (FileId × String)}
    (h : enumeration.Perm sources) :
    ((ImportGraph.ofSources enumeration).dependencies.nodes.Pairwise (· < ·) ∧
      (∀ id, id ∈ (ImportGraph.ofSources enumeration).dependencies.nodes ↔
        id ∈ sources.map (·.1)) ∧
      ∀ edge ∈ (ImportGraph.ofSources enumeration).edges,
        edge.1 ∈ sources.map (·.1) ∧ edge.2 ∈ sources.map (·.1)) ∧
    ∀ n ∈ sources.map (·.1),
      ((ImportGraph.ofSources enumeration).dependencies.importers n).Pairwise (· < ·) ∧
      (∀ m, m ∈ (ImportGraph.ofSources enumeration).dependencies.importers n ↔
        m ≠ n ∧ Imports sources m n) ∧
      ∀ twin ∈ sources.map (·.1), twin ≠ n → FileId.stem twin = FileId.stem n →
        (twin ∈ (ImportGraph.ofSources enumeration).dependencies.importers n ↔
          Imports sources twin n) ∧
        ∀ m, Imports sources m twin → ¬Imports sources m n →
          m ∉ (ImportGraph.ofSources enumeration).dependencies.importers n := by
  have hids : ∀ id, id ∈ enumeration.map (·.1) ↔ id ∈ sources.map (·.1) :=
    fun id => (h.map _).mem_iff
  have himporters : ∀ n ∈ sources.map (·.1), ∀ m,
      m ∈ (ImportGraph.ofSources enumeration).dependencies.importers n ↔
        m ≠ n ∧ Imports sources m n := by
    intro n hn m
    rw [mem_importers_dependencies ((hids n).mpr hn), imports_perm h]
  refine ⟨⟨ImportGraph.nodes_ofSources_pairwise, ?_, ?_⟩, ?_⟩
  · intro id
    rw [← hids id]
    exact ImportGraph.mem_nodes_ofSources
  · intro edge hedge
    obtain ⟨hfrom, hto⟩ := ImportGraph.edge_mem_nodes hedge
    rw [ImportGraph.mem_nodes_ofSources, hids] at hfrom hto
    exact ⟨hfrom, hto⟩
  · intro n hn
    refine ⟨importers_pairwise _ n, himporters n hn, ?_⟩
    intro twin _ hne _
    refine ⟨?_, ?_⟩
    · rw [himporters n hn]
      exact and_iff_right hne
    · intro m _ hm himp
      exact hm ((himporters n hn m).mp himp).2

/-- A file that imports one of two twins is no importer of the other. -/
theorem fanIn_exact_twins :
    [("b.ts", "import './a.js'"), ("a.ts", ""), ("a.js", "")].Perm
        [("a.js", ""), ("a.ts", ""), ("b.ts", "import './a.js'")] ∧
      "a.ts" ∈ [("a.js", ""), ("a.ts", ""), ("b.ts", "import './a.js'")].map (·.1) ∧
      "b.ts" ∉ (ImportGraph.ofSources [("b.ts", "import './a.js'"), ("a.ts", ""),
        ("a.js", "")]).dependencies.importers "a.ts" := by
  have hperm : [("b.ts", "import './a.js'"), ("a.ts", ""), ("a.js", "")].Perm
      [("a.js", ""), ("a.ts", ""), ("b.ts", "import './a.js'")] := by decide
  refine ⟨hperm, by decide, ?_⟩
  obtain ⟨-, -, htwin⟩ := (fanIn_exact hperm).2 "a.ts" (by decide)
  exact (htwin "a.js" (by decide) (by decide) (by decide +kernel)).2 "b.ts"
    (by decide +kernel) (by decide +kernel)

end Preflight
