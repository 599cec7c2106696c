import Preflight.Risk.Briefing
import Preflight.Scoring.Score

/-!
# Results of an analysis

The files of a scan with their scores and risk profiles, the worst first for the policy of the
report, and what is said about all of them together.

## Main definitions

* `FileResult`, `AnalysisResult`: the result for a file and for a scan.
* `sortByScore`, `sortByRisk`, `riskCounts`: the order of files and the number at each level.
* `AnalysisResult.limited`, `AnalysisResult.exitCode`: what a reader gets to see of it.
-/

namespace Preflight

/-- The result for a file. -/
structure FileResult where
  facts : FileFacts
  score : FileScore
  risk : RiskProfile
  deriving DecidableEq, Repr, Inhabited

/-- The id of the file. -/
def FileResult.path (r : FileResult) : FileId := r.facts.path

/-! ### Order and numbers -/

/-- Files with lower scores come first; among equals, the path decides. -/
def scorePrecedes (a b : FileResult) : Bool :=
  a.score.score < b.score.score || (a.score.score == b.score.score && decide (a.path ≤ b.path))

/-- Files at a riskier level come first; among equals, the path decides. -/
def riskPrecedes (a b : FileResult) : Bool :=
  a.risk.level.rank < b.risk.level.rank ||
    (a.risk.level.rank == b.risk.level.rank && decide (a.path ≤ b.path))

/-- Files, the lowest score first. -/
def sortByScore (results : List FileResult) : List FileResult := results.mergeSort scorePrecedes

/-- Files, the riskiest first. -/
def sortByRisk (results : List FileResult) : List FileResult := results.mergeSort riskPrecedes

/-- How many files are at each level, in the order in which the levels were first counted. -/
structure Counts where
  entries : List (RiskLevel × Int) := []
  deriving DecidableEq, Repr, Inhabited

namespace Counts

/-- The number at a level. -/
def number (counts : Counts) (level : RiskLevel) : Int := (counts.entries.lookup level).getD 0

/-- Entries with the number at a level set, at the end where the level is new. -/
def setEntry (level : RiskLevel) (n : Int) : List (RiskLevel × Int) → List (RiskLevel × Int)
  | [] => [(level, n)]
  | (l, m) :: rest => if l = level then (l, n) :: rest else (l, m) :: setEntry level n rest

/-- Numbers with the one at a level set. -/
def set (counts : Counts) (level : RiskLevel) (n : Int) : Counts :=
  ⟨setEntry level n counts.entries⟩

/-- Numbers set one after another. -/
def ofList (entries : List (RiskLevel × Int)) : Counts :=
  entries.foldl (fun counts (level, n) => counts.set level n) {}

end Counts

/-- The number of files at each level: those of an analysis always, others where they occur. -/
def riskCounts (results : List FileResult) : Counts :=
  results.foldl
    (fun counts r => counts.set r.risk.level (counts.number r.risk.level + 1))
    ⟨RiskLevel.all.map fun level => (level, 0)⟩

/-! ### Results -/

/-- The result of a scan, the files in the order of the policy. -/
structure AnalysisResult where
  policy : Policy
  projectRoot : String
  files : List FileResult
  overall : Int
  counts : Counts
  summary : String
  recommendations : List String := []
  deriving DecidableEq, Repr, Inhabited

namespace AnalysisResult

/-- Some file is at the highest level. -/
def hasHighRisk (r : AnalysisResult) : Bool := r.files.any (·.risk.level == .high)

/-- A limit leaves files out. -/
def isCutBy (r : AnalysisResult) (top : Int) : Bool := 0 ≤ top && top < r.files.length

/-- The result with only its first files, where a limit is given that leaves files out. -/
def limited (r : AnalysisResult) : Option Int → AnalysisResult
  | none => r
  | some top => if r.isCutBy top then { r with files := r.files.take top.toNat } else r

/-- One where a file is at the highest level, or where the score of the project is below a
limit; zero otherwise. -/
def exitCode (r : AnalysisResult) (minScore : Option Int) : Nat :=
  if r.policy = .risk then (if r.hasHighRisk then 1 else 0)
  else match minScore with
    | some limit => if r.overall < limit then 1 else 0
    | none => 0

end AnalysisResult

end Preflight
