import Preflight.FileTree.Ignore
import Preflight.Listing
import Preflight.TestFile
import Preflight.Text.LetterCase

/-!
# Source files below a directory

A walk enters the real directories that are neither ignored nor known to hold no sources, and
takes the files whose names have the right suffix, that are not ignored and, as a rule, are no
tests. A link counts as the file it leads to; a link to a directory is not entered.

## Main definitions

* `Selection`: what a walk looks for.
* `Entry.filesBelow`: the places of a tree that are no directories.
* `Workspace.sourceWalk`, `Workspace.sourceFiles`: the files a walk takes, as they are met and in
  order.
-/

namespace Preflight

/-- Directories that hold no sources of a project. -/
def excludedDirectories : List String :=
  [".git", ".hg", ".svn", "node_modules", "dist", "build", "coverage", ".next", ".turbo",
   ".cache"]

/-- What a walk looks for. Rules see paths as seen from the top of the project. -/
structure Selection where
  rules : List IgnoreRule
  extensions : List String
  includeTests : Bool
  deriving DecidableEq, Repr, Inhabited

namespace Selection

/-- The text of some segments as rules see it. -/
def ruleText (segments : List String) : List Char := ("/".intercalate segments).toList

/-- A directory is entered, given its segments as seen from the project. -/
def enters (s : Selection) (segments : List String) : Bool :=
  !excludedDirectories.contains (segments.getLast?.getD "") &&
    !isIgnored s.rules (ruleText segments) true

/-- A name has one of the suffixes, in any letter case, and is not that of a declaration
file. -/
def takesName (s : Selection) (name : String) : Bool :=
  let lower := Text.lowercase name
  s.extensions.any (fun ext => lower.endsWith (Text.lowercase ext)) && !lower.endsWith ".d.ts"

/-- A file is taken, given its segments as seen from the project. -/
def takes (s : Selection) (segments : List String) : Bool :=
  s.takesName (segments.getLast?.getD "") && !isIgnored s.rules (ruleText segments) false &&
    (s.includeTests || !isTestFile ⟨.here, segments⟩)

end Selection

mutual

/-- The place of an entry that is no directory, or the places below one that is entered. -/
def Entry.filesAt (enters : Place → Bool) (place : Place) : Entry → List Place
  | .file _ => [place]
  | .link _ => [place]
  | .directory es => if enters place then filesBelowAll enters place es else []

/-- The places below some entries that are no directories, below directories that are
entered. -/
def filesBelowAll (enters : Place → Bool) (place : Place) : List (String × Entry) → List Place
  | [] => []
  | (name, e) :: rest => e.filesAt enters (place ++ [name]) ++ filesBelowAll enters place rest

end

/-- The places of a tree that are no directories, below directories that are entered. -/
def Entry.filesBelow (enters : Place → Bool) (place : Place) (e : Entry) : List Place :=
  filesBelowAll enters place e.entries

/-- The part of a place below another. -/
def placeBelow (base place : Place) : Place := place.drop base.length

/-- The files a walk from a directory takes, for a project above the directory, as they are met.
The directory is at its real place, with no link on the way to it. -/
def Workspace.sourceWalk (w : Workspace) (s : Selection) (base root : Place) : List Place :=
  let found := match w.top.at? root with
    | some e => e.filesBelow (fun place => s.enters (placeBelow base place)) root
    | none => []
  found.filter fun place =>
    s.takes (placeBelow base place) && w.isFile (Workspace.pathOf place)

/-- The files a walk takes, in order. -/
def Workspace.sourceFiles (w : Workspace) (s : Selection) (base root : Place) : List Place :=
  (distinct (w.sourceWalk s base root)).mergeSort comesNoLater

end Preflight
