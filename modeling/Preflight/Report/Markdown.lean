import Preflight.Analysis
import Preflight.Report.Style

/-!
# The report as a document

Headings, a table with a row for each file, and what to do next, in Markdown.

## Main definitions

* `tableCells`: the row of a table, from its cells.
* `scoreRow`, `riskRow`: the row of a file, by policy.
* `markdownReport`: the document.
-/

namespace Preflight

/-- A mark around text that is shown as it is. -/
def codeMark : String := String.ofList [Char.ofNat 0x60]

/-- A text shown as it is. -/
def codeSpan (s : String) : String := codeMark ++ s ++ codeMark

/-- The row of a table, from its cells. -/
def tableCells (cells : List String) : String := "| " ++ " | ".intercalate cells ++ " |"

/-- The row of a file by its score. -/
def scoreRow (file : FileResult) : String :=
  tableCells [codeSpan file.path, toString file.score.score,
    file.score.issues.head?.getD "clean", file.score.issues[1]?.getD ""]

/-- The row of a file by its risk. -/
def riskRow (file : FileResult) : String :=
  tableCells [codeSpan file.risk.file, file.risk.level.name,
    toString file.risk.incomingDeps.length, toString file.risk.downstreamUntested.length,
    file.risk.briefing]

/-- The lines of the table by score. -/
def scoreDocument (r : AnalysisResult) : List String :=
  ["**Overall: " ++ toString r.overall ++ "/100** " ++ verdict r.overall, "",
    "| File | Score | Top issue | Fix |", "|---|---:|---|---|"] ++ r.files.map scoreRow

/-- The lines of the table by risk. -/
def riskDocument (r : AnalysisResult) : List String :=
  [r.summary, "", "| File | Risk | Imported by | Untested importers | Briefing |",
    "|---|---|---:|---:|---|"] ++ r.files.map riskRow

/-- The lines of the document. -/
def markdownLines (r : AnalysisResult) : List String :=
  ["# ai-ready report", "", "Project root: " ++ codeSpan r.projectRoot, ""] ++
  (if r.policy = .score then scoreDocument r else riskDocument r) ++
  if r.recommendations.isEmpty then []
  else ["", "## Next steps", ""] ++ r.recommendations.map fun item => "- " ++ item

/-- The document. -/
def markdownReport (r : AnalysisResult) : String :=
  String.join ((markdownLines r).map fun line => line ++ "\n")

end Preflight
