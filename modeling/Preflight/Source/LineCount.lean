import Preflight.Text.Blank
import Preflight.Text.Search

/-!
# Counting lines

Two counts are taken line by line, before and apart from any grammar: lines that bring in other
files, and lines of comment.

## Main definitions

* `lines`: the lines of a text, between line feeds.
* `isImportLine`, `importLines`: a line that starts an import, or binds what a call to
  `require` yields.
* `commentLines`: lines that start with a comment or stand inside a block comment.
-/

namespace Preflight.Source

open Preflight.Text

/-- A line of text, without its line feed. -/
abbrev Line := List Char

/-- The lines of a text: one more than it has line feeds. -/
def lines (text : String) : List Line := splitChar '\n' text.toList

/-- A line, without the blanks at its ends, starts with a text. -/
def startsWith (line : Line) (s : String) : Bool := s.toList.isPrefixOf (strip line)

/-- A line brings in another file. -/
def isImportLine (line : Line) : Bool :=
  startsWith line "import " || startsWith line "import\x7b" ||
    ((startsWith line "const " || startsWith line "let " || startsWith line "var ") &&
      occursIn "require(".toList (strip line))

/-- The number of lines that bring in another file. -/
def importLines (ls : List Line) : Nat := ls.countP isImportLine

/-- Whether a line counts as comment, and whether the next line starts inside a block comment,
for a line that starts inside one or not. -/
def commentStep (inBlock : Bool) (line : Line) : Bool × Bool :=
  let closes := occursIn "*/".toList (strip line)
  if inBlock then (true, !closes)
  else if startsWith line "//" then (true, false)
  else if startsWith line "/*" then (true, !closes)
  else (false, false)

/-- The lines that count as comment, given whether the first starts inside a block comment. -/
def commentFlags (inBlock : Bool) : List Line → List Bool
  | [] => []
  | line :: rest =>
    let (counts, inside) := commentStep inBlock line
    counts :: commentFlags inside rest

/-- The number of lines of comment. -/
def commentLines (ls : List Line) : Nat := (commentFlags false ls).countP id

theorem length_commentFlags (inBlock : Bool) (ls : List Line) :
    (commentFlags inBlock ls).length = ls.length := by
  induction ls generalizing inBlock with
  | nil => rfl
  | cons line rest ih => simp [commentFlags, ih]

end Preflight.Source
