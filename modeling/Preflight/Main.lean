import Preflight.CommandLine.Session
import Std.Time.DateTime

/-!
# The program

Reads the files that a command line may ask about, carries it out, and writes what comes of it.
Nothing is decided here: a session is a function of the files.

All of a project is read, the directories that no scan enters too, since a path may lead into them.
What a tree cannot hold is left out: what is no file, directory or link, and, with a word about it,
what cannot be read.

## Main definitions

* `Disk.readWay`, `Disk.readWhole`: what a path passes, and all that is at a place.
* `Disk.load`: the files that a command line may ask about.
* `main`: the program.
-/

namespace Preflight.Disk

open CommandLine

/-- The place of an absolute path. -/
def placeOf (path : String) : Place := (Path.ofString path).segments

/-! ### What is on the disk -/

/-- The file at a place. -/
def onDisk (place : Place) := do
  pure ((← IO.currentDir) / (Workspace.pathOf place).text)

/-- What kind of file is at a place, if there is one. -/
def kindAt? (place : Place) : IO (Option IO.FS.FileType) := do
  if Workspace.hasNull (Workspace.pathOf place) then pure none
  else try pure (some (← (← onDisk place).symlinkMetadata).type) catch _ => pure none

/-- Where a link leads, if it leads anywhere. -/
def destination? (place : Place) : IO (Option String) := do
  try pure (some (← IO.FS.realPath (← onDisk place)).toString) catch _ => pure none

/-- A link leads round in circles. -/
def isLoop (place : Place) : IO Bool := do
  try
    let _ ← (← onDisk place).metadata
    pure false
  catch
    | .invalidArgument .. => pure true
    | _ => pure false

/-- The link at a place, given where it leads. The text of one that leads nowhere is not to be had:
it is a link to itself if it leads round in circles, and else to a name that no file has. -/
def linkAt (place : Place) : Option String → IO Entry
  | some target => pure (.link target)
  | none => do
    if ← isLoop place then pure (.link (Workspace.pathOf place).text)
    else pure (.link (String.singleton (Char.ofNat 0)))

/-- Says that something cannot be read. -/
def passOver (e : IO.Error) : IO Unit := do
  (← IO.getStderr).putStrLn (toString e)

/-- A file, if it can be read. -/
def fileAt? (place : Place) : IO (Option Entry) := do
  try pure (some (.file (← IO.FS.readBinFile (← onDisk place)).toList))
  catch e => passOver e; pure none

/-- The names in a directory, none if it cannot be read. -/
def namesIn (place : Place) : IO (List String) := do
  try pure ((← (← onDisk place).readDir).toList.map (·.fileName))
  catch e => passOver e; pure []

/-- The entry at a place with all that is below it. The places that its links lead to are put
aside. -/
partial def entryAt? (place : Place) : StateT (List Place) IO (Option Entry) := do
  match ← kindAt? place with
  | some .dir =>
    let entries ← (← namesIn place).filterMapM fun name => do
      pure ((← entryAt? (place ++ [name])).map fun e => (name, e))
    pure (some (.directory entries))
  | some .symlink =>
    let destination ← destination? place
    modify (destination.toList.map placeOf ++ ·)
    pure (some (← linkAt place destination))
  | some .file => fileAt? place
  | _ => pure none

/-! ### Reading -/

/-- What was read so far: a tree, and the places of which all is in it. -/
structure Reading where
  top : Entry := .emptyDirectory
  whole : List Place := []

/-- Reading from the disk. -/
abbrev Reader := StateT Reading IO

/-- Puts an entry that was read in its place. -/
def keep (place : Place) (e : Entry) : Reader Unit :=
  modify fun r => { r with top := e.put place r.top }

/-- Reads what some segments pass from a directory on, and what they lead to: files, links, and
directories without what is in them. -/
partial def readWay (place : Place) : List String → Reader Unit
  | [] => pure ()
  | s :: rest => do
    let here := place ++ [s]
    if s = "" || s = "." then readWay place rest
    else if s = ".." then readWay place.dropLast rest
    else match ← kindAt? here with
      | some .dir =>
        modify fun r => { r with top := r.top.makeDirectory here }
        readWay here rest
      | some .symlink =>
        let destination ← destination? here
        keep here (← linkAt here destination)
        destination.toList.forM fun target => readWay [] (linkSegments target ++ rest)
      | some .file => (← fileAt? here).toList.forM (keep here)
      | _ => pure ()

/-- Reads what a path passes, and what it leads to. -/
def readPath (p : Path) : Reader Unit := readWay [] p.segments

/-- Reads all that is at a place, and all that its links lead to. -/
partial def readWhole (place : Place) : Reader Unit := do
  unless (← get).whole.any (·.isPrefixOf place) do
    let (e, ahead) ← (entryAt? place).run []
    e.toList.forM (keep place)
    modify fun r => { r with whole := place :: r.whole }
    ahead.forM readWhole

/-- Reads the project that a real path belongs to: where its manifests may be, and then all of
it. -/
def readProject (w : Workspace) (manifests : List String) (real : Path) : Reader Unit := do
  for place in placesAbove real.segments do
    manifests.forM fun name => readPath ((Workspace.pathOf place).join (Path.ofString name))
  let above := { w with top := (← get).top }
  (above.projectRootAbove manifests real).toOption.toList.forM fun root =>
    readWhole root.segments

/-- Reads the files that a path may ask about: those on the way to it, the project it belongs to,
and the one it belongs to by the settings of that. -/
def readAsked (w : Workspace) (path : String) : Reader Unit := do
  let named := (w.expandHome (Path.ofString path)).toOption.getD (Path.ofString path)
  readPath (Workspace.pathOf w.current)
  readWay (w.start named) named.segments
  let onTheWay := { w with top := (← get).top }
  for real in (onTheWay.resolve named).toOption.toList do
    readProject w defaultManifests real
    let project := { w with top := (← get).top }
    for config in (project.settingsFor real).toOption.toList do
      readProject w config.scan.manifestFiles real

/-- The files that a path and a log file may ask about. -/
def load (path : String) (logFile : Option String) : IO Workspace := do
  let current := placeOf (← IO.currentDir).toString
  let home := placeOf ((← IO.getEnv "HOME").getD "/root")
  let start : Workspace := { top := .emptyDirectory, current, home }
  let reading : Reader Unit := do
    logFile.toList.forM fun name => readPath (start.absolute (Path.ofString name))
    readAsked start path
  let (_, r) ← reading.run {}
  pure { start with top := r.top }

/-- The path that a command line asks about. -/
def askedPath (arguments : List String) : String :=
  match readArguments arguments with
  | .ok ⟨_, .scan request⟩ => request.path
  | _ => "."

/-- The log file that a command line asks for. -/
def askedLog (arguments : List String) : Option String :=
  match readArguments arguments with
  | .ok asked => asked.log.logFile
  | .error _ => none

/-- A number with at least a given number of digits. -/
def padded (width : Nat) (n : Int) : String :=
  let digits := toString n
  String.ofList (List.replicate (width - digits.length) '0') ++ digits

/-- A mark of the time, that of no zone, for the lines of a log file. -/
def timeMark : IO String := do
  let now := Std.Time.PlainDateTime.ofWallTime ((← Std.Time.Timestamp.now).toWallTime .zero)
  pure (padded 4 now.year ++ "-" ++ padded 2 now.month.val ++ "-" ++ padded 2 now.day.val ++
    " " ++ padded 2 now.hour.val ++ ":" ++ padded 2 now.minute.val ++ ":" ++
    padded 2 now.second.val ++ "," ++ padded 3 (now.nanosecond.val / 1000000) ++ " ")

/-- What is said where the program ends without a status. -/
def abortMessage : Abort → String
  | .log f => f.message
  | .path e => e.message
  | .file f => f.message
  | .config f => f.message

/-- Writes at the end of a log file what a session adds to it. -/
def saveLog (before after : Workspace) (logFile : Option String) : IO Unit := do
  for name in logFile.toList do
    let path := after.absolute (Path.ofString name)
    let old := (before.readBytes path).toOption.getD []
    for content in (after.readBytes path).toOption.toList do
      let log ← IO.FS.Handle.mk path.text .append
      log.write ⟨(content.drop old.length).toArray⟩

end Preflight.Disk

open Preflight in
/-- The program. -/
def main (arguments : List String) : IO UInt32 := do
  let logFile := Disk.askedLog arguments
  let w ← Disk.load (Disk.askedPath arguments) logFile
  let terminal ← (← IO.getStdout).isTty
  match CommandLine.session w (← Disk.timeMark) terminal arguments with
  | .error a =>
    (← IO.getStderr).putStrLn (Disk.abortMessage a)
    pure 1
  | .ok s =>
    (← IO.getStdout).putStr s.output
    (← IO.getStderr).putStr s.errors
    Disk.saveLog w s.workspace logFile
    pure (UInt32.ofNat s.exit)
