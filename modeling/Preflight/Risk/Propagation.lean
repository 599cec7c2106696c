import Preflight.Graph.Dependencies
import Preflight.Risk.Briefing
import Preflight.Scan

/-!
# Risk through the import graph

A profile is made in two steps. The first takes what the file and the graph say. The second,
once the facts of all scanned files are known, adds the importers that have no tests; importers
that were not scanned are looked up in the file tree.

## Main definitions

* `provisionalProfile`, `finalProfile`: the two steps.
* `untestedImporters`: the importers that have no tests.
-/

namespace Preflight

/-- A profile with its level and its advice. -/
def completeProfile (p : RiskProfile) : RiskProfile :=
  let p := { p with level := classifyRisk p.evidence }
  { p with briefing := fileBriefing p }

/-- The profile of a file with given places in the import graph. -/
def profileWith (facts : FileFacts) (circular : List FileId) (inCycle : Bool)
    (incoming untested : List FileId) : RiskProfile :=
  completeProfile
    { file := facts.path
      level := .low
      circularDeps := circular
      inCycle := inCycle
      incomingDeps := incoming
      downstreamUntested := untested
      globalMutations := facts.source.globalMutations
      missingReturnTypes := facts.source.missingReturnTypes
      coverage := facts.coverage }

/-- What the facts of a file and the import graph say about its risk. -/
def provisionalProfile (facts : FileFacts) (g : Dependencies) : RiskProfile :=
  profileWith facts (g.cycleMembers facts.path) (g.inCycle facts.path) (g.importers facts.path) []

/-- The facts of scanned files by id. Where an id occurs twice, the last facts count. -/
def factsOf? (snapshot : List FileFacts) (id : FileId) : Option FileFacts :=
  snapshot.reverse.find? (·.path == id)

/-- An importer has tests: by its facts where it was scanned, by the file tree where not. -/
def importerHasTest (w : Workspace) (root : Path) (snapshot : List FileFacts)
    (importer : FileId) : Except FileFault Bool :=
  match factsOf? snapshot importer with
  | some facts => .ok facts.coverage.hasTest
  | none => (w.discoverTests (root.join (Path.ofString importer)) root).map (·.hasTest)

/-- The importers that have no tests, in the order they are given. -/
def withoutTest (w : Workspace) (root : Path) (snapshot : List FileFacts) :
    List FileId → Except FileFault (List FileId)
  | [] => .ok []
  | importer :: rest => do
    let tested ← importerHasTest w root snapshot importer
    let others ← withoutTest w root snapshot rest
    pure (if tested then others else importer :: others)

/-- The importers that have no tests, sorted. -/
def untestedImporters (w : Workspace) (root : Path) (snapshot : List FileFacts)
    (importers : List FileId) : Except FileFault (List FileId) :=
  (withoutTest w root snapshot importers).map sorted

/-- A profile with the importers that have no tests. -/
def finalProfile (w : Workspace) (root : Path) (snapshot : List FileFacts) (facts : FileFacts)
    (p : RiskProfile) : Except FileFault RiskProfile :=
  (untestedImporters w root snapshot p.incomingDeps).map
    (profileWith facts p.circularDeps p.inCycle p.incomingDeps)

end Preflight
