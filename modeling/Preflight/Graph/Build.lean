import Preflight.Graph.Dependencies
import Preflight.Log.Logged
import Preflight.Scan

/-!
# Building the import graph of a project

The graph holds every script file of a project that is not ignored and no test, whatever part of
the project is scanned. Where it cannot be built, a run goes on with the empty graph, unless the
failure is of a kind that nobody foresaw.

## Main definitions

* `Workspace.graphSources`: the files of the graph and their texts.
* `Workspace.importGraph`: the graph.
* `GraphBuilder`, `Workspace.buildGraph`: what makes a graph, and what does so as a rule.
* `GraphBuilder.orEmpty`: a builder with the empty graph in place of a failure.
-/

namespace Preflight

/-- What the import graph of a project is made from. -/
structure GraphSettings where
  extensions : List String := graphExtensions
  excludePaths : List String := []
  deriving DecidableEq, Repr, Inhabited

/-- Why there is no import graph. -/
inductive GraphFailure where
  | ignoreFile (error : Text.Utf8.DecodeError)
  | other (message : String) (foreseen : Bool)
  deriving DecidableEq, Repr, Inhabited

namespace GraphFailure

/-- The wording of a failure. -/
def message : GraphFailure → String
  | ignoreFile e => e.message
  | other m _ => m

/-- A run can go on without the graph. -/
def isForeseen : GraphFailure → Bool
  | ignoreFile _ => true
  | other _ foreseen => foreseen

end GraphFailure

/-- What makes the import graph of the project at a path. -/
abbrev GraphBuilder := Workspace → Path → Logged GraphFailure Dependencies

namespace Workspace

/-- The files of the import graph of a project and their texts. -/
def graphSources (w : Workspace) (settings : GraphSettings) (root : Path) :
    Except Text.Utf8.DecodeError (List (FileId × String)) :=
  (w.ignoreRules root settings.excludePaths).map fun rules =>
    let files := w.sourceFiles ⟨rules, settings.extensions, false⟩ root.segments root.segments
    files.filterMap fun place =>
      match w.readTextLenient (pathOf place) with
      | .ok text => some ((pathOf place).seenFrom root, text)
      | .error _ => none

/-- The import graph of a project. -/
def importGraph (w : Workspace) (settings : GraphSettings) (root : Path) :
    Except Text.Utf8.DecodeError ImportGraph :=
  (w.graphSources settings root).map ImportGraph.ofSources

/-- Why the walk of a project finds nothing to enter. -/
def walkError? (w : Workspace) (root : Path) : Option FileError :=
  match w.entry root with
  | .ok e => if e.isDirectory then none else some .notDirectory
  | .error e => some e

/-- A warning where the walk of a project finds nothing to enter. -/
def warnOfWalk (w : Workspace) (root : Path) : Logged GraphFailure Unit :=
  match w.walkError? root with
  | none => pure ()
  | some e =>
    .warning "repo_scanner" ("Skipping unreadable entry " ++ root.text ++ ": " ++ e.reason)

/-- The import graph of a project, made from its files. -/
def buildGraph (settings : GraphSettings) : GraphBuilder := fun w root =>
  match w.importGraph settings root with
  | .error e => .fail (.ignoreFile e)
  | .ok g => do
    w.warnOfWalk root
    .debug "graph" ("Import graph for " ++ root.text ++ ": " ++ toString g.nodes.length ++
      " files, " ++ toString g.edges.length ++ " edges")
    pure g.dependencies

end Workspace

namespace GraphBuilder

/-- What follows a failure: a warning and the empty graph where it was foreseen. -/
def withoutGraph (root : Path) (failure : GraphFailure) : Logged GraphFailure Dependencies :=
  if failure.isForeseen then do
    .warning "risk" ("Import graph unavailable for " ++ root.text ++ " (" ++ failure.message ++
      "); using local signals only")
    pure Dependencies.empty
  else .fail failure

/-- A builder that gives the empty graph where a foreseen failure keeps another from giving
one. -/
def orEmpty (build : GraphBuilder) : GraphBuilder := fun w root =>
  (build w root).recover (withoutGraph root)

end GraphBuilder

end Preflight
