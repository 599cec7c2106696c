import Preflight.Run.Engine

/-!
# Runs on a project with its own settings

Whoever names a path gets the report of the project it belongs to, with the settings of that
project. The command line and the service differ in how they ask and in what they say, not in
what they report.

## Main definitions

* `ProjectError`: why there is no report.
* `Workspace.settingsFor`: the settings for a path.
* `Workspace.runProject`: the report for a path.
-/

namespace Preflight

/-- Why there is no report for a path. -/
inductive ProjectError where
  | path (error : Workspace.PathError)
  | file (fault : FileFault)
  | notFound (target : Path)
  | config (failure : ConfigFailure)
  | run (error : RunError)
  deriving DecidableEq, Repr, Inhabited

/-- A report with the settings it was made with. -/
structure ProjectRun where
  config : Config
  result : AnalysisResult
  deriving DecidableEq, Repr, Inhabited

namespace Workspace

/-- The path that a text names. There has to be something at it. -/
def existingPath (w : Workspace) (path : String) : Except ProjectError Path :=
  match w.expandHome (Path.ofString path) with
  | .error e => .error (.path e)
  | .ok target =>
    match w.exists? target with
    | .error e => .error (.file ⟨e, target.text⟩)
    | .ok false => .error (.notFound target)
    | .ok true => .ok target

/-- The settings of the project that a path belongs to. -/
def settingsFor (w : Workspace) (target : Path) : Except ProjectError Config :=
  match w.findProjectRoot defaultManifests target with
  | .error (.path e) => .error (.path e)
  | .error (.file f) => .error (.file f)
  | .ok root => (w.loadConfig root).mapError .config

/-- The report for a path under a policy, or under that of the project where none is named. -/
def runProject (w : Workspace) (path : String) (policy : Option String) :
    Logged ProjectError ProjectRun := do
  let target ← .ofExcept (w.existingPath path)
  let config ← .ofExcept (w.settingsFor target)
  let name := (policy.filter (· ≠ "")).getD config.policy.name
  let result ← ((Engine.ofConfig config).run w {} target.text name).outcome.mapError .run
  pure ⟨config, result⟩

end Workspace

end Preflight
