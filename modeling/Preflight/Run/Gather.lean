import Preflight.Facts
import Preflight.Log.Logged
import Preflight.Scan

/-!
# Gathering the facts of files

Each file of a scan is read once. A file that cannot be read, a blank one, and one that does not
follow its grammar have facts as well; only a test file that cannot be looked for is a fault.

## Main definitions

* `factsOfSource`: the facts of a text, by the name of its file.
* `Workspace.gatherFacts`: the facts of a file of a scan.
-/

namespace Preflight

open Preflight.Source

/-- The facts of a text. A file in no known dialect has the number of its lines only. -/
def factsOfSource {ε : Type} (parse : Parser) (name text : String) : Logged ε SourceFacts :=
  match Dialect.ofFileName? name with
  | none => pure (.unknown (lines text).length)
  | some d =>
    match parse d text with
    | some tree => pure (.ofTree (lines text) (some tree))
    | none => do
      .debug "analyzers.tree_sitter"
        ("Parse errors in " ++ d.name ++ " source; function facts skipped")
      pure (.ofTree (lines text) none)

/-- A record of what was found in a file. -/
def noteFacts {ε : Type} (id : FileId) (source : SourceFacts) (coverage : TestCoverage) :
    Logged ε Unit :=
  .debug "engine"
    (id ++ ": " ++ toString source.functions.length ++ " functions, " ++
      toString source.importCount ++ " imports, test file " ++ coverage.testFile.getD "missing")

namespace Workspace

/-- The facts of a file whose tests are known. -/
def readFacts {ε : Type} (w : Workspace) (file : Path) (id : FileId) (coverage : TestCoverage) :
    Logged ε FileFacts :=
  match w.readText file with
  | .error e => do
    .warning "engine" ("Cannot read " ++ id ++ ": " ++ e.message)
    pure { path := id, coverage, readable := false }
  | .ok text =>
    if Text.isBlankText text.toList then
      pure { path := id, source := .unknown (lines text).length, coverage, blank := true }
    else do
      let source ← factsOfSource w.readers.parse file.name text
      noteFacts id source coverage
      pure { path := id, source, coverage }

/-- The facts of a file of a scan. -/
def gatherFacts (w : Workspace) (target : ScanTarget) (file : Path) :
    Logged FileFault FileFacts := do
  let coverage ← .ofExcept (w.discoverTests file target.projectRoot)
  w.readFacts file (target.fileId file) coverage

end Workspace

end Preflight
