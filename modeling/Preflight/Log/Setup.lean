import Preflight.FileTree.Lookup
import Preflight.Log.Logged

/-!
# Where a log goes

A log goes to the console and, where one is named, to a file. A setup takes effect as a whole or
not at all: the file is opened before anything is replaced.

## Main definitions

* `Handler`, `LogSetup`: where records go, and which.
* `LogFault`: why a log file does not open.
* `LogSetup.configure`: a new setup.
* `Logging.setUp`, `Logging.call`: setting up, step by step, while the program runs.
* `LogSetup.consoleText`, `LogSetup.write`: what a setup does with records.
-/

namespace Preflight

/-- Where records go. -/
inductive Sink where
  | console
  | file (place : Place)
  deriving DecidableEq, Repr, Inhabited

/-- Where records go that reach a level. -/
structure Handler where
  sink : Sink
  level : LogLevel
  deriving DecidableEq, Repr, Inhabited

/-- What becomes of records: the handlers, the level a record has to reach, and whether records
are passed on to whoever else may listen. Without a setup nobody is told. -/
structure LogSetup where
  handlers : List Handler := []
  level : Option LogLevel := none
  propagates : Bool := true
  deriving DecidableEq, Repr, Inhabited

/-- Why a log file does not open. -/
inductive LogFault where
  | file (fault : FileFault)
  /-- The path holds a character that no name can hold. -/
  | nullCharacter
  deriving DecidableEq, Repr, Inhabited

/-- The wording of a fault. -/
def LogFault.message : LogFault → String
  | file f => f.message
  | nullCharacter => Workspace.PathError.nullCharacter.message

namespace Workspace

/-- A path made absolute as it is written, links not followed. -/
def absolute (w : Workspace) (p : Path) : Path := ((pathOf w.current).join p).normalize

/-- The place of a file that is to be written at its end, and the tree with that file in it. A
missing file is made where its directory is there. -/
def openToAppend (w : Workspace) (p : Path) : Except LogFault (Place × Workspace) :=
  let failed := fun e => Except.error (.file ⟨e, p.text⟩)
  if hasNull p then .error .nullCharacter
  else
    match w.locate p with
    | .ok place =>
      match w.top.at? place with
      | some (.file _) => .ok (place, w)
      | _ => failed .isDirectory
    | .error .notFound =>
      let place := (w.realPlace p).segments
      match w.top.at? place.dropLast, w.top.at? place with
      | some (.directory _), none =>
        .ok (place, { w with top := Entry.put (.file []) place w.top })
      | _, _ => failed .notFound
    | .error e => failed e

/-- The tree with a text written at the end of a file. -/
def append (w : Workspace) (place : Place) (text : String) : Workspace :=
  match w.top.at? place with
  | some (.file content) =>
    { w with top := Entry.put (.file (content ++ text.toUTF8.toList)) place w.top }
  | _ => w

end Workspace

namespace LogSetup

/-- The lowest level of some handlers. -/
def lowestLevel : List Handler → Option LogLevel
  | [] => none
  | h :: rest =>
    match lowestLevel rest with
    | some l => some (if l.reaches h.level then h.level else l)
    | none => some h.level

/-- The setup with some handlers. -/
def ofHandlers (handlers : List Handler) : LogSetup :=
  { handlers, level := lowestLevel handlers, propagates := false }

/-- The handler of the console: warnings and above, all records for those who ask for more. -/
def consoleHandler (verbose : Bool) : Handler :=
  ⟨.console, if verbose then .debug else .warning⟩

/-- A new setup, and the tree with its log file. -/
def configure (w : Workspace) (verbose : Bool) (logFile : Option Path) :
    Except LogFault (LogSetup × Workspace) :=
  match logFile with
  | none => .ok (ofHandlers [consoleHandler verbose], w)
  | some p =>
    match w.openToAppend (w.absolute p) with
    | .error f => .error f
    | .ok (place, w) => .ok (ofHandlers [consoleHandler verbose, ⟨.file place, .debug⟩], w)

/-- The setup without a handler. -/
def removeHandler (s : LogSetup) (h : Handler) : LogSetup :=
  { s with handlers := s.handlers.erase h }

/-- The setup with a handler that was just made. -/
def addHandler (s : LogSetup) (h : Handler) : LogSetup := { s with handlers := s.handlers ++ [h] }

end LogSetup

/-! ### Setting up -/

/-- The log of a program that runs: its setup, and the files around it. -/
structure Logging where
  setup : LogSetup
  workspace : Workspace

namespace Logging

/-- A change of the log that may fail. What was changed before a failure stays changed. -/
abbrev Change := ExceptT LogFault (StateM Logging)

/-- A change of the setup. -/
def changeSetup (f : LogSetup → LogSetup) : Change Unit :=
  modify fun l => { l with setup := f l.setup }

/-- The handler of a log file, which is opened for it. -/
def openLogFile (p : Path) : Change Handler := do
  let l ← get
  match l.workspace.openToAppend (l.workspace.absolute p) with
  | .error f => throw f
  | .ok (place, w) =>
    set { l with workspace := w }
    return ⟨.file place, .debug⟩

/-- The handlers of a setup that is asked for. -/
def newHandlers (verbose : Bool) (logFile : Option Path) : Change (List Handler) :=
  let console := LogSetup.consoleHandler verbose
  match logFile with
  | none => return [console]
  | some p => return [console, ← openLogFile p]

/-- The handlers of the setup are replaced, and the level and the passing on of records are set. -/
def setUp (verbose : Bool) (logFile : Option Path) : Change Unit := do
  let handlers ← newHandlers verbose logFile
  let l ← get
  l.setup.handlers.forM fun old => changeSetup (·.removeHandler old)
  handlers.forM fun new => changeSetup (·.addHandler new)
  changeSetup fun s => { s with level := LogSetup.lowestLevel handlers }
  changeSetup fun s => { s with propagates := false }

/-- What comes of setting up, and the log after it. -/
def call (l : Logging) (verbose : Bool) (logFile : Option Path) : Except LogFault Unit × Logging :=
  (setUp verbose logFile).run.run l

end Logging

/-! ### Records -/

namespace LogSetup

/-- The setup and the tree after a setup that was asked for. -/
def reconfigure (s : LogSetup) (w : Workspace) (verbose : Bool) (logFile : Option Path) :
    LogSetup × Workspace :=
  let after := (Logging.call ⟨s, w⟩ verbose logFile).2
  (after.setup, after.workspace)

/-- A setup takes a record. -/
def accepts (s : LogSetup) (r : Record) : Bool := r.level.reaches (s.level.getD .warning)

/-- The records that a handler of a setup gets. -/
def recordsFor (s : LogSetup) (h : Handler) (records : List Record) : List Record :=
  records.filter fun r => s.accepts r && r.level.reaches h.level

/-- What some records write to the console. -/
def consoleText (s : LogSetup) (records : List Record) : String :=
  String.join (s.handlers.flatMap fun h =>
    if h.sink = .console then (s.recordsFor h records).map (·.consoleLine) else [])

/-- The tree after some records were written to the log file, each after a mark of the time. -/
def write (s : LogSetup) (time : String) (records : List Record) (w : Workspace) : Workspace :=
  s.handlers.foldl
    (fun w h =>
      match h.sink with
      | .console => w
      | .file place =>
        w.append place
          (String.join ((s.recordsFor h records).map fun r => time ++ r.fileLine)))
    w

end LogSetup

end Preflight
