import Preflight.FileTree.Walk
import Preflight.Graph.FileId

/-!
# Scanning a project

A scan starts from a file or a directory. The project it belongs to is the nearest directory
above it that holds a manifest. The tests of a file are found where they are looked for first.

## Main definitions

* `Workspace.findProjectRoot`: the project a path belongs to, and `SearchError`: why there is none.
* `ScanSettings`, `ScanTarget`, `Workspace.scan`: the files of a scan.
* `Workspace.discoverTests`: what is known about the tests of a file.
-/

namespace Preflight

/-- The suffixes of the files of a scan, where none are configured. -/
def defaultExtensions : List String := [".ts", ".tsx", ".js", ".jsx"]

/-- The files that mark the top of a project, where none are configured. -/
def defaultManifests : List String := ["package.json"]

/-- What a scan looks for. -/
structure ScanSettings where
  extensions : List String := defaultExtensions
  excludePaths : List String := []
  manifestFiles : List String := defaultManifests
  deriving DecidableEq, Repr, Inhabited

/-- The files of a scan and the project they belong to. -/
structure ScanTarget where
  projectRoot : Path
  scanRoot : Path
  files : List Path
  deriving DecidableEq, Repr, Inhabited

/-- The id of a file of a scan. -/
def ScanTarget.fileId (t : ScanTarget) (file : Path) : FileId := file.seenFrom t.projectRoot

/-- Why a scan has no files. -/
inductive ScanError where
  | path (error : Workspace.PathError)
  | file (fault : FileFault)
  | notFound (target : String)
  | ignoreFile (error : Text.Utf8.DecodeError)
  deriving DecidableEq, Repr, Inhabited

/-- The wording of an error. -/
def ScanError.message : ScanError → String
  | path e => e.message
  | file f => f.message
  | notFound target => "path not found: " ++ target
  | ignoreFile e => e.message

/-- A place and the places above it, the nearest first. -/
def placesAbove : Place → List Place
  | [] => [[]]
  | s :: rest => ((placesAbove rest).map fun above => s :: above) ++ [[]]

namespace Workspace

/-- Why a search for a project ends without one. -/
inductive SearchError where
  | path (error : PathError)
  | file (fault : FileFault)
  deriving DecidableEq, Repr, Inhabited

/-- A directory holds a manifest. The name of a manifest that is too long is a fault. -/
def hasManifest (w : Workspace) (manifests : List String) (directory : Path) :
    Except FileFault Bool :=
  (w.firstFile? (manifests.map fun name => directory.join (Path.ofString name))).map (·.isSome)

/-- The nearest directory that holds a manifest, from a real path up; the directory the path is
in, where there is none. -/
def projectRootAbove (w : Workspace) (manifests : List String) (real : Path) :
    Except FileFault Path := do
  let file ← w.firstFile? [real]
  let origin := if file.isSome then real.parent else real
  let found ← ((placesAbove origin.segments).map pathOf).findM? (w.hasManifest manifests)
  pure (found.getD origin)

/-- The project a path belongs to. -/
def findProjectRoot (w : Workspace) (manifests : List String) (start : Path) :
    Except SearchError Path :=
  match w.resolve start with
  | .error e => .error (.path e)
  | .ok real => (w.projectRootAbove manifests real).mapError .file

/-- The files of a scan that starts at a real path. -/
def scanFrom (w : Workspace) (settings : ScanSettings) (real : Path) :
    Except ScanError ScanTarget :=
  match w.projectRootAbove settings.manifestFiles real with
  | .error f => .error (.file f)
  | .ok root =>
    if w.isFile real then .ok ⟨root, real.parent, [real]⟩
    else
      match w.ignoreRules root settings.excludePaths with
      | .error e => .error (.ignoreFile e)
      | .ok rules =>
        let files := w.sourceFiles ⟨rules, settings.extensions, false⟩ root.segments real.segments
        .ok ⟨root, real, files.map pathOf⟩

/-- The files of a scan. -/
def scan (w : Workspace) (settings : ScanSettings) (target : String) :
    Except ScanError ScanTarget :=
  match w.resolve (Path.ofString target) with
  | .error e => .error (.path e)
  | .ok real =>
    match w.exists? real with
    | .error e => .error (.file ⟨e, real.text⟩)
    | .ok false => .error (.notFound target)
    | .ok true => w.scanFrom settings real

/-- A scan starts from a directory, and not from a single file. -/
def scansDirectory (w : Workspace) (target : String) : Bool :=
  match w.resolve (Path.ofString target) with
  | .ok real => !w.isFile real
  | .error _ => false

/-- What a test file says about the tests of a file. -/
def coverageBy (w : Workspace) (root found : Path) : TestCoverage :=
  { hasTest := true
    assertions := match w.readTextLenient found with
      | .ok text => countAssertions text.toList
      | .error _ => 0
    testFile := some (found.seenFrom root) }

/-- What is known about the tests of a file. -/
def discoverTests (w : Workspace) (source root : Path) : Except FileFault TestCoverage :=
  match w.firstFile? (testCandidates source root) with
  | .error f => .error f
  | .ok none => .ok TestCoverage.missing
  | .ok (some found) => .ok (w.coverageBy root found)

end Workspace

end Preflight
