import Preflight.Report.BriefingReport
import Preflight.Report.Markdown
import Preflight.Report.Payload
import Preflight.Report.Table

/-!
# Rendering a report

## Main definitions

* `Format`: the forms a report comes in.
* `render`: a report in a form.
-/

namespace Preflight

/-- The forms a report comes in. -/
inductive Format where
  | table
  | json
  | markdown
  deriving DecidableEq, Repr, Inhabited

namespace Format

/-- The forms, in the order in which they are listed. -/
def all : List Format := [table, json, markdown]

/-- The name of a form. -/
def name : Format → String
  | table => "table"
  | json => "json"
  | markdown => "markdown"

/-- The form with a name. -/
def ofName? (s : String) : Option Format := all.find? (·.name == s)

theorem ofName?_name (f : Format) : ofName? f.name = some f := by cases f <;> rfl

/-- What is said of a name that no form has. -/
def unknownMessage (s : String) : String := "Unknown format: " ++ s

end Format

/-- A report in a form. Only the table by score has explanations, and only tables have
colours. -/
def render (r : AnalysisResult) (format : Format) (explain color : Bool) : String :=
  match format with
  | .json => r.toJson.text
  | .markdown => markdownReport r
  | .table => if r.policy = .score then scoreTable r explain ⟨color⟩ else briefingReport r ⟨color⟩

end Preflight
