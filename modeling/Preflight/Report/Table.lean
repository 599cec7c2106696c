import Preflight.Analysis
import Preflight.Report.Style
import Preflight.Text.Blank

/-!
# The table of scores

One row for each file, the lowest score first, then the score of the project and what to do.

## Main definitions

* `tableRow`, `explanation`: the lines of a file.
* `scoreTable`: the report.
-/

namespace Preflight

/-- What stands in the place of an issue where there is none. -/
def cleanLabel : String := "✓ AI-ready"

/-- A text without the blanks it ends with. -/
def trimRight (s : String) : String := String.ofList (Text.trimEnd s.toList)

/-- The heads of the columns. -/
def tableHead (style : Style) : String :=
  style.wrap [.dim]
    (padRight 40 "FILE" ++ " " ++ padRight 8 "SCORE" ++ " " ++ padRight 24 "TOP ISSUE" ++ " FIX")

/-- The row of a file. -/
def tableRow (style : Style) (s : FileScore) : String :=
  let score := toString s.score
  let issue := s.issues.head?.getD cleanLabel
  let fix := s.issues[1]?.getD ""
  trimRight (padRight 40 s.path ++ " " ++ style.wrap [scoreShade s.score] score ++
    blanks (8 - score.length) ++ " " ++ padRight 24 issue ++ " " ++ fix)

/-- The scores of a file on the axes. -/
def explanation (style : Style) (s : SignalScores) : String :=
  style.wrap [.dim]
    ("  ├─ function_length: " ++ toString s.functionLength ++ "  coupling: " ++
      toString s.coupling ++ "  tests: " ++ toString s.testCoverage ++ "  comments: " ++
      toString s.commentDensity ++ "  size: " ++ toString s.fileSize)

/-- The lines of a file. -/
def tableLines (style : Style) (explain : Bool) (s : FileScore) : List String :=
  tableRow style s ::
    match s.signals with
    | some signals => if explain then [explanation style signals] else []
    | none => []

/-- The table of scores. -/
def scoreTable (r : AnalysisResult) (explain : Bool) (style : Style) : String :=
  "\n".intercalate
    ([style.wrap [.bold] "ai-ready" ++ ": codebase scan complete", "", tableHead style] ++
      r.files.flatMap (fun file => tableLines style explain file.score) ++
      ["", style.wrap [.bold] ("overall: " ++ toString r.overall ++ "/100") ++ " " ++
        verdict r.overall] ++
      r.recommendations.map fun item => "→ " ++ item)

end Preflight
