import Preflight.FileTree.Lookup
import Preflight.Text.Blank
import Preflight.Text.Glob

/-!
# Ignore rules

A rule is a wildcard pattern that leaves files and directories out of a scan. One with a slash in
front or inside is matched with the whole path, any other with each segment. A slash at the end
asks for a directory, an exclamation mark in front takes files back in, and the last rule that
matches decides.

## Main definitions

* `IgnoreRule`, `IgnoreRule.ofPattern?`: rules, and their text.
* `IgnoreRule.covers`: a rule matches a path.
* `isIgnored`: a list of rules leaves a path out.
* `Workspace.ignoreRules`: the rules of a project.
-/

namespace Preflight

open Preflight.Text

/-- A rule that leaves files and directories out of a scan. -/
structure IgnoreRule where
  pattern : List Char
  directoryOnly : Bool
  anchored : Bool
  negate : Bool
  hasSlash : Bool
  deriving DecidableEq, Repr, Inhabited

namespace IgnoreRule

/-- The rule a pattern denotes, if it is not blank. -/
def ofPattern? (pattern : List Char) (negate : Bool) : Option IgnoreRule :=
  let cs := strip pattern
  if cs.isEmpty then none
  else
    let directoryOnly := cs.getLast? = some '/'
    let cs := if directoryOnly then cs.dropLast else cs
    let anchored := cs.head? = some '/'
    let cs := if anchored then cs.tail else cs
    some ⟨cs, directoryOnly, anchored, negate, cs.contains '/'⟩

/-- The rule a line of an ignore file holds, if it holds one. -/
def ofLine? (line : List Char) : Option IgnoreRule :=
  match strip line with
  | [] => none
  | '#' :: _ => none
  | '!' :: rest => ofPattern? rest true
  | cs => ofPattern? cs false

/-- A rule covers a path, said whether it is that of a directory. -/
def covers (rule : IgnoreRule) (path : List Char) (isDirectory : Bool) : Bool :=
  if rule.pattern.isEmpty || (rule.directoryOnly && !isDirectory) then false
  else if rule.anchored || rule.hasSlash then
    globMatches rule.pattern path ||
      (rule.directoryOnly && (rule.pattern ++ ['/']).isPrefixOf path)
  else (splitChar '/' path).any (globMatches rule.pattern)

end IgnoreRule

/-- A list of rules leaves a path out. -/
def isIgnored (rules : List IgnoreRule) (path : List Char) (isDirectory : Bool) : Bool :=
  rules.foldl
    (fun ignored rule => if rule.covers path isDirectory then !rule.negate else ignored) false

/-- The rules of an ignore file. -/
def parseIgnoreFile (text : List Char) : List IgnoreRule :=
  (splitLines text).filterMap IgnoreRule.ofLine?

/-- The name of the ignore file of a project. -/
def ignoreFileName : String := ".gitignore"

/-- The rules of a project: those of its ignore file, then the given patterns. The ignore file
may be missing but must be text. -/
def Workspace.ignoreRules (w : Workspace) (root : Path) (excluded : List String) :
    Except Text.Utf8.DecodeError (List IgnoreRule) :=
  let given := excluded.filterMap fun pattern => IgnoreRule.ofPattern? pattern.toList false
  match w.readText (root.child ignoreFileName) with
  | .ok text => .ok (parseIgnoreFile text.toList ++ given)
  | .error (.file ..) => .ok given
  | .error (.decode e) => .error e

theorem isIgnored_append_singleton (rules : List IgnoreRule) (rule : IgnoreRule)
    (path : List Char) (isDirectory : Bool) :
    isIgnored (rules ++ [rule]) path isDirectory =
      if rule.covers path isDirectory then !rule.negate
      else isIgnored rules path isDirectory := by
  simp [isIgnored]

end Preflight
