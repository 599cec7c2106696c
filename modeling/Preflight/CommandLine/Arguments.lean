import Preflight.CommandLine.Options
import Preflight.Report.Render
import Preflight.Text.Numeral

/-!
# Arguments of the program

The program has two commands: one scans a path and reports, the other answers requests. The
options of the log may stand before a command; where they stand behind it as well, the later
one counts.

## Main definitions

* `Invocation`: what the program is asked to do.
* `programGrammar`, `scanGrammar`, `serveGrammar`: what the command lines may hold.
* `readArguments`: what a command line asks for.
-/

namespace Preflight.CommandLine

/-- The name of the program. -/
def programName : String := "aiready"

/-- The version of the program. -/
def programVersion : String := "1.0.0"

/-- What is asked of the log. -/
structure LogRequest where
  verbose : Bool := false
  logFile : Option String := none
  deriving DecidableEq, Repr, Inhabited

/-- What is asked of a scan. -/
structure ScanRequest where
  path : String := "."
  policy : Option String := none
  json : Bool := false
  format : Option String := none
  top : Option Int := none
  minScore : Option Int := none
  explain : Bool := false
  plain : Bool := false
  deriving DecidableEq, Repr, Inhabited

/-- Where requests are answered. -/
structure ServeRequest where
  host : String := "127.0.0.1"
  port : Int := 8000
  deriving DecidableEq, Repr, Inhabited

/-- What the program can do. -/
inductive Command where
  | scan (request : ScanRequest)
  | serve (request : ServeRequest)
  deriving DecidableEq, Repr, Inhabited

/-- What the program is asked to do. -/
structure Invocation where
  log : LogRequest
  command : Command
  deriving DecidableEq, Repr, Inhabited

/-! ### Values -/

/-- A whole number that is not negative. -/
def countValue (s : String) : Except String Int :=
  match Text.readInt? s.toList with
  | none => .error ("expected an integer, got " ++ Text.quoted s)
  | some n => if n < 0 then .error "must not be negative" else .ok n

/-- A whole number. -/
def intValue (s : String) : Except String Int :=
  match Text.readInt? s.toList with
  | none => .error ("invalid int value: " ++ Text.quoted s)
  | some n => .ok n

/-! ### Options -/

/-- The option that asks for help. -/
def helpOption {σ : Type} (program : String) : OptionSpec σ :=
  ⟨["-h", "--help"], .stop (.help program), []⟩

/-- The option for all records on the console. -/
def verboseOption {σ : Type} : OptionSpec (LogRequest × σ) :=
  ⟨["-v", "--verbose"], .flag fun (log, rest) => ({ log with verbose := true }, rest), []⟩

/-- The option for a log file. -/
def logFileOption {σ : Type} : OptionSpec (LogRequest × σ) :=
  ⟨["--log-file"],
    .value fun s => .ok fun (log, rest) => ({ log with logFile := some s }, rest), []⟩

/-- An option of a command that is given or not. -/
def commandFlag {σ : Type} (name : String) (set : σ → σ) (excludes : List String) :
    OptionSpec (LogRequest × σ) :=
  ⟨[name], .flag fun (log, request) => (log, set request), excludes⟩

/-- An option of a command with a value. -/
def commandValue {σ α : Type} (name : String) (read : String → Except String α)
    (set : α → σ → σ) (excludes : List String) : OptionSpec (LogRequest × σ) :=
  ⟨[name], .value fun s => (read s).map fun a (log, request) => (log, set a request), excludes⟩

/-! ### Grammars -/

/-- The command line of a scan. -/
def scanGrammar : Grammar (LogRequest × ScanRequest) :=
  { program := programName ++ " scan"
    options :=
      [helpOption (programName ++ " scan"), verboseOption, logFileOption,
       commandValue "--policy" (choice (Policy.all.map (·.name)))
         (fun p r => { r with policy := some p }) [],
       commandFlag "--json" (fun r => { r with json := true }) ["--format"],
       commandValue "--format" (choice (Format.all.map (·.name)))
         (fun f r => { r with format := some f }) ["--json"],
       commandValue "--top" countValue (fun n r => { r with top := some n }) [],
       commandValue "--min-score" countValue (fun n r => { r with minScore := some n }) [],
       commandFlag "--explain" (fun r => { r with explain := true }) [],
       commandFlag "--no-color" (fun r => { r with plain := true }) []]
    operands := .optional fun s (log, r) => (log, { r with path := s }) }

/-- The command line of the service. -/
def serveGrammar : Grammar (LogRequest × ServeRequest) :=
  { program := programName ++ " serve"
    options :=
      [helpOption (programName ++ " serve"), verboseOption,
       commandValue "--host" .ok (fun h r => { r with host := h }) [],
       commandValue "--port" intValue (fun n r => { r with port := n }) []]
    operands := .nothing }

/-- The names of the commands. -/
def commandNames : List String := ["scan", "serve"]

/-- What the arguments from the name of a command on ask for. -/
def readCommand (arguments : List String) (before : LogRequest × Option Command) :
    Except Stop ((LogRequest × Option Command) × List String) :=
  match arguments with
  | "scan" :: rest =>
    (scanGrammar.read rest (before.1, {})).map fun ((log, r), leftOver) =>
      ((log, some (.scan r)), leftOver)
  | "serve" :: rest =>
    (serveGrammar.read rest (before.1, {})).map fun ((log, r), leftOver) =>
      ((log, some (.serve r)), leftOver)
  | _ =>
    match choice commandNames (arguments.headD "") with
    | .error message => .error (.usage programName ("argument command: " ++ message))
    | .ok _ => .ok (before, [])

/-- The command line of the program. -/
def programGrammar : Grammar (LogRequest × Option Command) :=
  { program := programName
    options :=
      [helpOption programName, ⟨["--version"], .stop .version, []⟩, verboseOption, logFileOption]
    operands := .command "command" readCommand }

/-- What a command line asks for. Nothing may be left over. -/
def readArguments (arguments : List String) : Except Stop Invocation :=
  match programGrammar.read arguments ({}, none) with
  | .error stop => .error stop
  | .ok ((log, some command), []) => .ok ⟨log, command⟩
  | .ok ((_, _), leftOver) =>
    .error (.usage programName ("unrecognized arguments: " ++ " ".intercalate leftOver))

/-! ### Messages -/

/-- A summary of how a program is called. -/
def usageLine (program : String) : String := "usage: " ++ program ++ " [options]\n"

/-- What is said about a fault in the use of a program. -/
def faultText (program message : String) : String :=
  usageLine program ++ program ++ ": error: " ++ message ++ "\n"

end Preflight.CommandLine
