import Preflight.Graph.Build
import Preflight.Proofs.Graph.FanIn
import Preflight.Proofs.FileTree.Project
import Preflight.Proofs.FileTree.Walk
import Preflight.Proofs.Log.Results

/-!
# The files of an import graph

A file that a walk takes can be read, if only in part. So the files of an import graph are those
that a walk from the top of the project takes, and an import graph is built whenever the ignore
file of the project is text.

## Main results

* `Workspace.exists_readTextLenient`: what is a file has a text.
* `Workspace.result_buildGraph`, `buildGraph_eq_ok_iff`: when there is an import graph, and which.
* `Workspace.map_fst_graphSources`, `exists_mem_sourceFiles_of_mem_graphSources`: its files.
* `mem_sources_of_mem_importers`: importers are among its files.
-/

namespace Preflight

namespace Workspace

variable {w : Workspace} {settings : GraphSettings} {root : Path}

theorem exists_readBytes {p : Path} (h : w.isFile p = true) :
    ∃ content, w.readBytes p = .ok content := by
  obtain ⟨content, he⟩ := isFile_iff.mp h
  exact ⟨content, by rw [readBytes, he]⟩

/-- What is a file has a text, once malformed bytes are left out. -/
theorem exists_readTextLenient {p : Path} (h : w.isFile p = true) :
    ∃ text, w.readTextLenient p = .ok text := by
  obtain ⟨content, hcontent⟩ := exists_readBytes h
  rw [readTextLenient, hcontent]
  exact ⟨_, rfl⟩

/-- What comes of building an import graph depends on the files and their texts alone. -/
theorem result_buildGraph (settings : GraphSettings) :
    (buildGraph settings w root).result =
      ((w.graphSources settings root).map fun sources =>
        (ImportGraph.ofSources sources).dependencies).mapError .ignoreFile := by
  have hwarn : (w.warnOfWalk root).result = .ok () := by
    rw [warnOfWalk]
    split
    · rfl
    · rfl
  rw [buildGraph, importGraph]
  cases w.graphSources settings root with
  | error e => rfl
  | ok sources =>
    dsimp only [Except.map]
    rw [Logged.result_bind, hwarn]
    rfl

/-- When there is an import graph, and which. -/
theorem buildGraph_eq_ok_iff {g : Dependencies} :
    (buildGraph settings w root).result = .ok g ↔
      ∃ sources, w.graphSources settings root = .ok sources ∧
        (ImportGraph.ofSources sources).dependencies = g := by
  rw [result_buildGraph, mapError_eq_ok_iff, map_eq_ok_iff]

/-- The files of an import graph are those that a walk from the top of the project takes. -/
theorem map_fst_graphSources (settings : GraphSettings) {rules : List IgnoreRule}
    (hrules : w.ignoreRules root settings.excludePaths = .ok rules) :
    ∃ sources, w.graphSources settings root = .ok sources ∧
      sources.map (·.1) =
        (w.sourceFiles ⟨rules, settings.extensions, false⟩ root.segments root.segments).map
          fun place => (pathOf place).seenFrom root := by
  rw [graphSources, hrules]
  refine ⟨_, rfl, ?_⟩
  rw [List.map_filterMap, ← List.filterMap_eq_map]
  refine List.filterMap_congr fun place hplace => ?_
  obtain ⟨text, htext⟩ := exists_readTextLenient (mem_sourceFiles hplace).1
  rw [htext]
  rfl

/-- The ids of an import graph are those of the files that a walk from the top of the project
takes. -/
theorem exists_seenFrom_of_mem_graphSources {sources : List (FileId × String)}
    (hsources : w.graphSources settings root = .ok sources) {id : FileId}
    (hid : id ∈ sources.map (·.1)) :
    ∃ rules, w.ignoreRules root settings.excludePaths = .ok rules ∧
      ∃ place ∈ w.sourceFiles ⟨rules, settings.extensions, false⟩ root.segments root.segments,
        (pathOf place).seenFrom root = id := by
  obtain ⟨rules, hrules, -⟩ := map_eq_ok_iff.mp hsources
  obtain ⟨sources', hsources', hfiles⟩ := map_fst_graphSources settings hrules
  obtain rfl := Except.ok.inj (hsources.symm.trans hsources')
  rw [hfiles, List.mem_map] at hid
  exact ⟨rules, hrules, hid⟩

/-- The ids of an import graph lead to the files that a walk from the top of the project takes. -/
theorem exists_mem_sourceFiles_of_mem_graphSources (hw : w.WellNamed) (hdistinct : w.DistinctNames)
    (htop : root.anchor = .top) (hdirections : ∀ s ∈ root.segments, ¬isDirection s)
    {sources : List (FileId × String)} (hsources : w.graphSources settings root = .ok sources)
    {id : FileId} (hid : id ∈ sources.map (·.1)) :
    ∃ rules, w.ignoreRules root settings.excludePaths = .ok rules ∧
      ∃ place ∈ w.sourceFiles ⟨rules, settings.extensions, false⟩ root.segments root.segments,
        root.join (Path.ofString id) = pathOf place := by
  obtain ⟨rules, hrules, place, hplace, rfl⟩ := exists_seenFrom_of_mem_graphSources hsources hid
  have hnames := names_of_mem_sourceFiles hw hdirections hplace
  obtain ⟨-, -, name, rest, rfl, -⟩ := (mem_sourceFiles_iff hw hdistinct).mp hplace
  have hne : name :: rest ≠ [] := List.cons_ne_nil name rest
  refine ⟨rules, hrules, _, hplace, ?_⟩
  rw [Path.seenFrom_pathOf_append htop hne, Path.join_ofString_intercalate htop hne
    fun s hs => hnames s (List.mem_append_right _ hs)]

/-- The files of an import graph are below the top of the project and can be read, and their ids
lead to them. -/
theorem exists_place_of_mem_graphSources (hw : w.WellNamed) (hdistinct : w.DistinctNames)
    (htop : root.anchor = .top) (hdirections : ∀ s ∈ root.segments, ¬isDirection s)
    {sources : List (FileId × String)} (hsources : w.graphSources settings root = .ok sources)
    {id : FileId} (hid : id ∈ sources.map (·.1)) :
    ∃ place, root.join (Path.ofString id) = pathOf place ∧ w.isFile (pathOf place) = true ∧
      ∀ s ∈ place, isFileName s = true := by
  obtain ⟨rules, -, place, hplace, hjoin⟩ :=
    exists_mem_sourceFiles_of_mem_graphSources hw hdistinct htop hdirections hsources hid
  exact ⟨place, hjoin, (mem_sourceFiles hplace).1, names_of_mem_sourceFiles hw hdirections hplace⟩

end Workspace

/-- The importers of any id are files of the graph. -/
theorem mem_sources_of_mem_importers {sources : List (FileId × String)} {id importer : FileId}
    (h : importer ∈ (ImportGraph.ofSources sources).dependencies.importers id) :
    importer ∈ sources.map (·.1) := by
  rw [ImportGraph.dependencies, Dependencies.mem_importers_of_iff] at h
  obtain ⟨-, target, -, hindexed⟩ := h
  rw [ImportGraph.incoming, ImportGraph.indexed_filter_nonempty] at hindexed
  split at hindexed
  · obtain ⟨-, hedge⟩ := ImportGraph.mem_importersOf_iff.mp hindexed
    exact ImportGraph.mem_nodes_ofSources.mp (ImportGraph.edge_mem_nodes hedge).1
  · cases hindexed

end Preflight
