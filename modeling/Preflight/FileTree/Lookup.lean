import Preflight.FileTree.Entry
import Preflight.Path
import Preflight.Readers
import Preflight.Text.LineBreak
import Preflight.Text.Quoted
import Preflight.Text.Utf8

/-!
# Finding files

A path leads through a file tree from the top or from the current directory. A link on the way
is replaced by the path it holds; at most forty links are followed.

There are two ways to go. Opening a file needs every directory on the way. The real path of a
path is also defined where nothing is there: what is missing is kept as written.

## Main definitions

* `Workspace`: a file tree, the current directory, the home directory, and readers of texts.
* `Workspace.locate`: where a path leads, or why it leads nowhere.
* `Workspace.realPath`: a path with its links and pairs of dots carried out.
* `Workspace.isFile`, `isDirectory`, `exists?`: what is at a path.
* `Workspace.readText`, `readTextLenient`: the text of a file.
-/

namespace Preflight

/-- Why a path leads nowhere, or not to a file. -/
inductive FileError where
  | notFound
  | notDirectory
  | isDirectory
  | nameTooLong
  | tooManyLinks
  deriving DecidableEq, Repr, Inhabited

namespace FileError

/-- The number of an error. -/
def number : FileError → Nat
  | notFound => 2
  | notDirectory => 20
  | isDirectory => 21
  | nameTooLong => 36
  | tooManyLinks => 40

/-- The wording of an error. -/
def reason : FileError → String
  | notFound => "No such file or directory"
  | notDirectory => "Not a directory"
  | isDirectory => "Is a directory"
  | nameTooLong => "File name too long"
  | tooManyLinks => "Too many levels of symbolic links"

/-- An error with the path it is about. -/
def message (e : FileError) (path : String) : String :=
  "[Errno " ++ toString e.number ++ "] " ++ e.reason ++ ": " ++ Text.quoted path

end FileError

/-- What is wrong at a path. -/
structure FileFault where
  error : FileError
  path : String
  deriving DecidableEq, Repr, Inhabited

/-- The wording of a fault. -/
def FileFault.message (f : FileFault) : String := f.error.message f.path

/-- A file tree, with the directory that relative paths start from, the home directory, and the
readers of the texts in it. -/
structure Workspace where
  top : Entry
  current : Place
  home : Place
  readers : Readers := .standard
  deriving Inhabited

/-- The number of links that are followed on the way to a file. -/
def linkBudget : Nat := 40

/-- The number of bytes a name may have. -/
def nameLimit : Nat := 255

/-- The segments of the path a link holds. -/
def linkSegments (target : String) : List String := Text.splitString '/' target

/-- Where the path a link holds starts, for a link in a given directory. -/
def linkStart (target : String) (place : Place) : Place :=
  if target.startsWith "/" then [] else place

/-- Where some segments lead from a place, told what to do at a link: where the link points, the
directory it is in, and the segments after it. Every segment needs a directory to start from. -/
def followUpTo (top : Entry) (atLink : String → Place → List String → Except FileError Place) :
    Place → List String → Except FileError Place
  | place, [] => .ok place
  | place, s :: rest =>
    match top.at? place with
    | some (.directory es) =>
      if s = "" || s = "." then followUpTo top atLink place rest
      else if s = ".." then followUpTo top atLink place.dropLast rest
      else if nameLimit < s.utf8ByteSize then .error .nameTooLong
      else match es.lookup s with
        | none => .error .notFound
        | some (.link target) => atLink target place rest
        | some _ => followUpTo top atLink (place ++ [s]) rest
    | _ => .error .notDirectory

/-- Where some segments lead from a place, with a number of links that may still be followed. -/
def follow (top : Entry) : Nat → Place → List String → Except FileError Place
  | 0 => followUpTo top fun _ _ _ => .error .tooManyLinks
  | budget + 1 => followUpTo top fun target place rest =>
      follow top budget (linkStart target place) (linkSegments target ++ rest)

/-- Where some segments lead when what is missing is kept as written, and whether every link on
the way was followed to its end. It is told where a link leads, from its place, the directory it
is in and where it points. -/
def realThrough (top : Entry) (ofLink : Place → Place → String → Place × Bool) :
    Place → List String → Place × Bool
  | place, [] => (place, true)
  | place, s :: rest =>
    if s = "" || s = "." then realThrough top ofLink place rest
    else if s = ".." then realThrough top ofLink place.dropLast rest
    else
      let here := place ++ [s]
      match top.at? here with
      | some (.link target) =>
        let (there, finished) := ofLink here place target
        if finished then realThrough top ofLink there rest else (there ++ rest, false)
      | _ => realThrough top ofLink here rest

/-- Where some segments lead when what is missing is kept as written, and whether no link was
met again while it was being followed. The number bounds how deep links lead into links. -/
def realFrom (top : Entry) : Nat → List Place → Place → List String → Place × Bool
  | 0, _ => realThrough top fun here _ _ => (here, false)
  | depth + 1, active => realThrough top fun here place target =>
      if here ∈ active then (here, false)
      else realFrom top depth (here :: active) (linkStart target place) (linkSegments target)

namespace Workspace

/-- Where a path starts. -/
def start (w : Workspace) (p : Path) : Place := if p.isAbsolute then [] else w.current

/-- Where a path leads, or why it leads nowhere. -/
def locate (w : Workspace) (p : Path) : Except FileError Place :=
  follow w.top linkBudget (w.start p) p.segments

/-- The file or directory at a path. -/
def entry (w : Workspace) (p : Path) : Except FileError Entry :=
  match w.locate p with
  | .ok place =>
    match w.top.at? place with
    | some e => .ok e
    | none => .error .notFound
  | .error e => .error e

/-- There is a file at a path. -/
def isFile (w : Workspace) (p : Path) : Bool :=
  match w.entry p with | .ok e => e.isFile | .error _ => false

/-- There is a directory at a path. -/
def isDirectory (w : Workspace) (p : Path) : Bool :=
  match w.entry p with | .ok e => e.isDirectory | .error _ => false

/-- The first of some paths that leads to a file. A name that is too long is a fault here. -/
def firstFile? (w : Workspace) : List Path → Except FileFault (Option Path)
  | [] => .ok none
  | p :: rest =>
    match w.entry p with
    | .ok e => if e.isFile then .ok (some p) else w.firstFile? rest
    | .error .nameTooLong => .error ⟨.nameTooLong, p.text⟩
    | .error _ => w.firstFile? rest

/-- There is something at a path. A name that is too long is an error here. -/
def exists? (w : Workspace) (p : Path) : Except FileError Bool :=
  match w.entry p with
  | .ok _ => .ok true
  | .error .nameTooLong => .error .nameTooLong
  | .error _ => .ok false

/-! ### Real paths -/

/-- A path that starts at a place. -/
def pathOf (place : Place) : Path := ⟨.top, place⟩

/-- Where a path leads when what is missing is kept as written. -/
def realPlace (w : Workspace) (p : Path) : Path :=
  let place := (realFrom w.top (w.top.linkCount + 1) [] (w.start p) p.segments).1
  (pathOf (place.filter Path.isSegment)).normalize

/-- Why a path has no real path. -/
inductive PathError where
  /-- A link leads to itself. -/
  | linkLoop (path : Path)
  /-- The home directory of a user is not known. -/
  | noHome
  /-- The path holds a character that no name can hold. -/
  | nullCharacter
  deriving DecidableEq, Repr, Inhabited

/-- The wording of an error. -/
def PathError.message : PathError → String
  | linkLoop path => "Symlink loop from " ++ Text.quoted path.text
  | noHome => "Could not determine home directory."
  | nullCharacter => "embedded null byte"

/-- A path holds a character that no name can hold. -/
def hasNull (p : Path) : Bool := p.segments.any fun s => s.toList.contains (Char.ofNat 0)

/-- The real path of a path: absolute, and without links and pairs of dots. -/
def realPath (w : Workspace) (p : Path) : Except PathError Path :=
  if hasNull p then .error .nullCharacter
  else
    let real := w.realPlace p
    match w.entry real with
    | .error .tooManyLinks => .error (.linkLoop real)
    | _ => .ok real

/-- A path with the sign of the home directory replaced by it. -/
def expandHome (w : Workspace) (p : Path) : Except PathError Path :=
  match p.anchor, p.segments with
  | .here, s :: rest =>
    if s = "~" then .ok (pathOf (w.home ++ rest))
    else if s.startsWith "~" then .error .noHome
    else .ok p
  | _, _ => .ok p

/-- The real path of a path that may start with the sign of the home directory. -/
def resolve (w : Workspace) (p : Path) : Except PathError Path :=
  match w.expandHome p with
  | .ok p => w.realPath p
  | .error e => .error e

/-! ### Reading -/

/-- Why a file has no text. -/
inductive ReadError where
  | file (fault : FileFault)
  | decode (error : Text.Utf8.DecodeError)
  deriving DecidableEq, Repr, Inhabited

/-- The wording of an error. -/
def ReadError.message : ReadError → String
  | file f => f.message
  | decode e => e.message

/-- The bytes of a file. -/
def readBytes (w : Workspace) (p : Path) : Except FileError (List UInt8) :=
  match w.entry p with
  | .ok (.file content) => .ok content
  | .ok _ => .error .isDirectory
  | .error e => .error e

/-- The text of a file, with a line feed for every line ending. -/
def readText (w : Workspace) (p : Path) : Except ReadError String :=
  match w.readBytes p with
  | .error e => .error (.file ⟨e, p.text⟩)
  | .ok content =>
    match Text.Utf8.decode content with
    | .ok cs => .ok (String.ofList (Text.unifyBreaks cs))
    | .error e => .error (.decode e)

/-- The text of a file without malformed bytes. -/
def readTextLenient (w : Workspace) (p : Path) : Except FileError String :=
  match w.readBytes p with
  | .error e => .error e
  | .ok content => .ok (String.ofList (Text.unifyBreaks (Text.Utf8.decodeLenient content)))

end Workspace

end Preflight
