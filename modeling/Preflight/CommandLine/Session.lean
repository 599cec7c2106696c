import Preflight.CommandLine.Arguments
import Preflight.Log.Setup
import Preflight.Run.Project

/-!
# Sessions of the program

A session takes a command line, sets up the log, carries the command out, and ends with a
status: zero, one where a report says that something is wrong or there is none, and two where
the command line makes no sense. What the program does not expect ends it without a status.

## Main definitions

* `Session`: what comes of a command line.
* `scanEnd`, `refusal`: what a scan ends with.
* `session`: a session.
-/

namespace Preflight.CommandLine

/-- What a command ends with. -/
structure End where
  exit : Nat
  output : String := ""
  message : String := ""
  served : List ServeRequest := []
  deriving DecidableEq, Repr, Inhabited

/-- What ends the program without a status. -/
inductive Abort where
  | log (fault : LogFault)
  | path (error : Workspace.PathError)
  | file (fault : FileFault)
  | config (failure : ConfigFailure)
  deriving DecidableEq, Repr, Inhabited

/-- What comes of a command line: the status, what is written to both outputs, what was served,
and the files after it. -/
structure Session where
  exit : Nat
  output : String
  errors : String
  served : List ServeRequest
  workspace : Workspace

/-! ### Scans -/

/-- The form of a report: the one asked for, or that of the project. -/
def ScanRequest.formatFor (request : ScanRequest) (c : Config) : Format :=
  if request.json then .json else (request.format.bind Format.ofName?).getD c.format

/-- A scan that found nothing says so, unless a program reads what it says. -/
def emptyNote (target : Path) : String := "no JS/TS files found in " ++ target.text ++ "\n"

/-- What a scan with a report ends with. -/
def scanEnd (request : ScanRequest) (terminal : Bool) (target : Path) (run : ProjectRun) : End :=
  let format := request.formatFor run.config
  let top := request.top.orElse fun _ => run.config.top
  let minScore := request.minScore.orElse fun _ => run.config.minScore
  { exit := run.result.exitCode minScore
    output :=
      if run.result.files.isEmpty && format = .table then emptyNote target
      else
        let color := !request.plain && format = .table && terminal
        render (run.result.limited top) format request.explain color ++ "\n" }

/-- What is said where a run has no result. -/
def runRefusal (error : RunError) : Logged Abort End :=
  match error with
  | .scan (.notFound _) => pure { exit := 1, message := "error: " ++ error.message ++ "\n" }
  | _ => do
    .debug "cli" "Scan failed"
    pure { exit := 1
           message := programName ++ " scan failed: " ++ error.message ++
             "\nRun with --verbose for more details.\n" }

/-- What a scan without a report ends with. -/
def refusal : ProjectError → Logged Abort End
  | .notFound target =>
    pure { exit := 1, message := "error: path not found: " ++ target.text ++ "\n" }
  | .config (.config e) => pure { exit := 1, message := "error: " ++ e.message ++ "\n" }
  | .config f => .fail (.config f)
  | .path e => .fail (.path e)
  | .file f => .fail (.file f)
  | .run e => runRefusal e

/-- A path as messages name it. -/
def shownPath (w : Workspace) (path : String) : Path :=
  match w.expandHome (Path.ofString path) with
  | .ok p => p
  | .error _ => Path.ofString path

/-- A scan with a report. -/
def reportedScan (w : Workspace) (terminal : Bool) (request : ScanRequest) :
    Logged ProjectError End := do
  let run ← w.runProject request.path request.policy
  pure (scanEnd request terminal (shownPath w request.path) run)

/-- A scan. -/
def performScan (w : Workspace) (terminal : Bool) (request : ScanRequest) : Logged Abort End :=
  (reportedScan w terminal request).recover refusal

/-! ### Sessions -/

/-- A command. -/
def perform (w : Workspace) (terminal : Bool) : Command → Logged Abort End
  | .scan request => performScan w terminal request
  | .serve request => do
    .info "service"
      ("Starting " ++ programName ++ " service on " ++ request.host ++ ":" ++
        toString request.port)
    pure { exit := 0, served := [request] }

/-- What a command line that asks for no command ends with. -/
def stopEnd : Stop → End
  | .usage program message => { exit := 2, message := faultText program message }
  | .version => { exit := 0, output := programName ++ " " ++ programVersion ++ "\n" }
  | .help program => { exit := 0, output := usageLine program }

/-- A session, with a mark of the time for the log file. -/
def session (w : Workspace) (time : String) (terminal : Bool) (arguments : List String) :
    Except Abort Session :=
  match readArguments arguments with
  | .error stop =>
    let e := stopEnd stop
    .ok ⟨e.exit, e.output, e.message, e.served, w⟩
  | .ok asked =>
    match LogSetup.configure w asked.log.verbose (asked.log.logFile.map Path.ofString) with
    | .error f => .error (.log f)
    | .ok (setup, w) =>
      let performed := perform w terminal asked.command
      performed.result.map fun e =>
        { exit := e.exit
          output := e.output
          errors := setup.consoleText performed.records ++ e.message
          served := e.served
          workspace := setup.write time performed.records w }

end Preflight.CommandLine
