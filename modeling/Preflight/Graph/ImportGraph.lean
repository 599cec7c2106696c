import Preflight.Graph.Reach
import Preflight.Graph.Specifier
import Preflight.Graph.Resolve

/-!
# The import graph

An edge leads from a file to each file one of its specifiers names. A cycle is a group of files
each of which leads to every other, or a file that imports itself.

## Main definitions

* `ImportGraph`, `ImportGraph.ofSources`: the files of a project and what they import.
* `ImportGraph.component`: the files that lead to a file and back.
* `ImportGraph.cycles`, `ImportGraph.importersOf`: what the analysis takes from the graph.
-/

namespace Preflight

/-- The files of a project in order, and what they import. -/
structure ImportGraph where
  nodes : List FileId
  edges : List (FileId × FileId)
  deriving DecidableEq, Repr, Inhabited

/-- The files a text imports, among the files of its project. -/
def importedFiles (files : List FileId) (importer : FileId) (text : String) : List FileId :=
  (importSpecifiers text.toList).filterMap fun spec => resolveSpecifier? spec importer files

namespace ImportGraph

/-- The import graph of a project, from the texts of its files. -/
def ofSources (sources : List (FileId × String)) : ImportGraph :=
  let files := sources.map (·.1)
  ⟨sortedSet files,
    distinct (sources.flatMap fun (importer, text) =>
      (importedFiles files importer text).map fun imported => (importer, imported))⟩

/-- What a file imports. -/
def imports (g : ImportGraph) (id : FileId) : List FileId :=
  (g.edges.filter fun edge => edge.1 == id).map (·.2)

/-- The files that import a file, itself left out, in order. -/
def importersOf (g : ImportGraph) (id : FileId) : List FileId :=
  sortedSet ((g.edges.filter fun edge => edge.2 == id && edge.1 != id).map (·.1))

/-- The files that some files lead to, these included. -/
def leadsTo (g : ImportGraph) (start : List FileId) : List FileId :=
  reachable g.imports g.nodes start

/-- The files that a file leads to by one import or more, for every file. -/
def descendants (g : ImportGraph) : List (FileId × List FileId) :=
  g.nodes.map fun id => (id, g.leadsTo (g.imports id))

/-- The files that lead to a file and to which it leads, the file itself among them. -/
def component (descendants : List (FileId × List FileId)) (id : FileId) : List FileId :=
  let below := (descendants.lookup id).getD []
  (descendants.filter fun (other, belowOther) =>
    other == id || (below.contains other && belowOther.contains id)).map (·.1)

/-- The groups of several files that lead to each other. -/
def groups (g : ImportGraph) : List (List FileId) :=
  let descendants := g.descendants
  distinct ((g.nodes.map (component descendants)).filter fun group => 1 < group.length)

/-- The files that import themselves. -/
def selfImports (g : ImportGraph) : List (List FileId) :=
  (g.nodes.filter fun id => (g.imports id).contains id).map fun id => [id]

/-- The cycles of the graph, in order. -/
def cycles (g : ImportGraph) : List (List FileId) :=
  (g.groups ++ g.selfImports).mergeSort comesNoLater

/-- The files that are imported by others, each with these. -/
def incoming (g : ImportGraph) : List (FileId × List FileId) :=
  (g.nodes.map fun id => (id, g.importersOf id)).filter fun entry => !entry.2.isEmpty

end ImportGraph

end Preflight
