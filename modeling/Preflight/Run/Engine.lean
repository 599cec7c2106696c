import Preflight.Config
import Preflight.Graph.Build
import Preflight.Graph.Cache
import Preflight.Risk.Guidance
import Preflight.Risk.Propagation
import Preflight.Run.Gather

/-!
# Runs

A run scans a target, gathers the facts of every file, asks the import graph of the project for
risk, and puts the results in the order of its policy. It starts from a cache of graphs and
leaves that cache empty.

## Main definitions

* `Engine`: what a run looks for, and how it comes by an import graph.
* `Workspace.results`: the results for the files of a scan.
* `summarize`: the result for the scan as a whole.
* `Engine.run`: a run.

## Implementation notes

`Engine.analyze` starts from a scanned target and `Engine.run` from what the caller names, so
that statements about the files of a scan need not go through the scan.
-/

namespace Preflight

/-- What a run looks for, and how it comes by an import graph. -/
structure Engine where
  settings : ScanSettings := {}
  builder : GraphBuilder := Workspace.buildGraph {}

/-- The engine of a project's settings. Its graph always has all script files that are not
excluded. -/
def Engine.ofConfig (c : Config) : Engine :=
  { settings := c.scan
    builder := Workspace.buildGraph { excludePaths := c.scan.excludePaths } }

/-- Why a run has no result. -/
inductive RunError where
  | unknownPolicy (name : String)
  | scan (error : ScanError)
  | graph (failure : GraphFailure)
  | file (fault : FileFault)
  deriving DecidableEq, Repr, Inhabited

/-- The wording of an error. -/
def RunError.message : RunError → String
  | unknownPolicy name => "Unknown policy: " ++ name
  | scan e => e.message
  | graph f => f.message
  | file f => f.message

/-- What comes of a run: its result with the records it leaves, and the cache after it. -/
structure RunOutcome where
  outcome : Logged RunError AnalysisResult
  cache : GraphCache

/-! ### Results -/

/-- The result for a file, from its facts and those of all files of the scan. -/
def Workspace.fileResult (w : Workspace) (root : Path) (g : Dependencies)
    (snapshot : List FileFacts) (facts : FileFacts) : Except FileFault FileResult :=
  (finalProfile w root snapshot facts (provisionalProfile facts g)).map fun risk =>
    ⟨facts, scoreFile facts, risk⟩

/-- The results for the files of a scan: the facts of all of them come first. -/
def Workspace.results (w : Workspace) (target : ScanTarget) (g : Dependencies) :
    Logged FileFault (List FileResult) := do
  let snapshot ← .each (w.gatherFacts target) target.files
  .each (fun facts => .ofExcept (w.fileResult target.projectRoot g snapshot facts)) snapshot

/-- The result for a scan. -/
def summarize (root : Path) (policy : Policy) (results : List FileResult) : AnalysisResult :=
  let overall := repoScore (results.map (·.score.score))
  let counts := riskCounts results
  if policy = .score then
    let files := sortByScore results
    { policy, projectRoot := root.text, files, overall, counts
      summary := scoreSummary overall files.length
      recommendations := scoreRecommendations files overall }
  else
    let files := sortByRisk results
    { policy, projectRoot := root.text, files, overall, counts
      summary := riskSummary counts files.length
      recommendations := actionItems files maxActionItems }

/-! ### Runs -/

/-- A record of what is about to be done. -/
def noteStart {ε : Type} (target : ScanTarget) : Logged ε Unit :=
  .info "engine"
    ("Analyzing " ++ toString target.files.length ++ " files under " ++ target.scanRoot.text ++
      " (project root " ++ target.projectRoot.text ++ ")")

/-- A scan, with a record of what a directory holds. -/
def Workspace.notedScan (w : Workspace) (settings : ScanSettings) (target : String) :
    Logged ScanError ScanTarget := do
  let found ← .ofExcept (w.scan settings target)
  if w.scansDirectory target then
    .debug "repo_scanner"
      ("Discovered " ++ toString found.files.length ++ " files under " ++ found.scanRoot.text)
  pure found

namespace Engine

/-- The run on a scanned target. -/
def analyze (e : Engine) (w : Workspace) (cache : GraphCache) (target : ScanTarget)
    (policy : Policy) : RunOutcome :=
  let (graph, after) := cache.getOrBuild target.projectRoot (e.builder.orEmpty w)
  { outcome := do
      noteStart target
      let g ← graph.mapError .graph
      let results ← (w.results target g).mapError .file
      let result := summarize target.projectRoot policy results
      .info "engine" ("Scan complete: " ++ result.summary)
      pure result
    cache := after.clear }

/-- A run. -/
def run (e : Engine) (w : Workspace) (cache : GraphCache) (target policyName : String) :
    RunOutcome :=
  let policy := Policy.ofName policyName
  if policy.isKnown then
    let scanned := (w.notedScan e.settings target).mapError RunError.scan
    match scanned.result with
    | .error f => ⟨⟨scanned.records, .error f⟩, cache⟩
    | .ok found =>
      let analyzed := e.analyze w cache found policy
      { analyzed with
        outcome := ⟨scanned.records ++ analyzed.outcome.records, analyzed.outcome.result⟩ }
  else ⟨.fail (.unknownPolicy policyName), cache⟩

end Engine

end Preflight
