import Preflight.Analysis
import Preflight.Report.Style
import Preflight.Text.Blank
import Preflight.Text.LetterCase
import Preflight.Text.Search

/-!
# The briefing before a session

A block of lines for each file, the riskiest first, then how the project stands and what to do.

## Main definitions

* `sentences`: the sentences of the advice on a file.
* `briefingBlock`: the lines of a file.
* `briefingReport`: the report.
-/

namespace Preflight

/-- The line between the parts of the report. -/
def separatorLine : String := String.ofList (List.replicate 40 '─')

/-- The parts of a text between the places where a full stop and a blank stand. -/
def splitSentences : List Char → List (List Char)
  | [] => [[]]
  | '.' :: ' ' :: rest => [] :: splitSentences rest
  | c :: rest =>
    match splitSentences rest with
    | [] => [[c]]
    | part :: more => (c :: part) :: more

/-- The sentences of a text, each with its full stop. -/
def sentences (text : String) : List String :=
  let parts := (splitSentences text.toList).map Text.strip
  (parts.filter fun part => !part.isEmpty).map fun part =>
    String.ofList (if part.getLast? = some '.' then part else part ++ ['.'])

/-- The badge of a level. -/
def riskBadge (style : Style) (level : RiskLevel) : String :=
  let badge := "[" ++ Text.uppercase level.name ++ " RISK]"
  match level with
  | .high => style.wrap [.bold, .red] badge
  | .medium => style.wrap [.bold, .yellow] badge
  | .low => style.wrap [.bold, .green] badge
  | .custom _ => badge

/-- The lines of a file. -/
def briefingBlock (style : Style) (p : RiskProfile) : List String :=
  let warn := style.wrap [.yellow] "  ⚠ "
  let ok := style.wrap [.green] "  ✓ "
  [p.file ++ "  " ++ riskBadge style p.level] ++
  [if !p.circularDeps.isEmpty then
      warn ++ "circular dep   → " ++ ", ".intercalate p.circularDeps
    else if p.inCycle then warn ++ "circular dep   → imports itself"
    else ok ++ "no circular deps"] ++
  (if p.incomingDeps.isEmpty then []
   else [warn ++ "imported by    → " ++ toString p.incomingDeps.length ++ " files"]) ++
  (if p.globalMutations.isEmpty then []
   else [warn ++ "global state   → " ++
     ", ".intercalate (p.globalMutations.map fun m =>
       m.name ++ " (line " ++ toString m.line ++ ")")]) ++
  [if p.missingReturnTypes = 0 then ok ++ "types ok"
    else warn ++ "missing types  → " ++ toString p.missingReturnTypes ++
      " exported functions without return type"] ++
  [if p.coverage.hasTest then
      ok ++ "tests          → " ++ toString p.coverage.assertions ++ " assertions"
    else warn ++ "no test file found"] ++
  (if p.level = .low then []
   else (sentences p.briefing).map fun sentence => style.wrap [.dim] ("  → " ++ sentence))

/-- The briefing before a session. -/
def briefingReport (r : AnalysisResult) (style : Style) : String :=
  "\n".intercalate
    (["", style.wrap [.bold] "ai-ready: pre-session briefing", separatorLine, ""] ++
      r.files.flatMap (fun file => briefingBlock style file.risk ++ [""]) ++
      [separatorLine, r.summary] ++
      r.recommendations.map (fun item => "→ " ++ item) ++ [""])

end Preflight
