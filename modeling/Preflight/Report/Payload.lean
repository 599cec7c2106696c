import Preflight.Report.Json
import Preflight.Analysis

/-!
# Reports for machines

## Main definitions

* `SignalScores.toJson`, `FileScore.toJson`, `RiskProfile.toJson`: the parts of a report.
* `AnalysisResult.members`, `AnalysisResult.toJson`: a report. What it holds depends on its
  policy.
-/

namespace Preflight

/-- The scores on the axes. -/
def SignalScores.toJson (s : SignalScores) : Json :=
  .obj [("functionLength", .num s.functionLength), ("coupling", .num s.coupling),
    ("testCoverage", .num s.testCoverage), ("commentDensity", .num s.commentDensity),
    ("fileSize", .num s.fileSize)]

/-- The score of a file. -/
def FileScore.toJson (s : FileScore) : Json :=
  .obj ([("path", .str s.path), ("score", .num s.score), ("issues", .strings s.issues)] ++
    match s.signals with
    | some signals => [("signals", signals.toJson)]
    | none => [])

/-- The risk profile of a file. -/
def RiskProfile.toJson (p : RiskProfile) : Json :=
  .obj [("file", .str p.file), ("risk_level", .str p.level.name),
    ("circular_deps", .strings p.circularDeps),
    ("incoming_deps",
      .obj [("count", .num p.incomingDeps.length), ("files", .strings p.incomingDeps)]),
    ("downstream_untested", .strings p.downstreamUntested),
    ("global_mutations",
      .arr (p.globalMutations.map fun m => .obj [("name", .str m.name), ("line", .num m.line)])),
    ("missing_return_types", .num p.missingReturnTypes),
    ("test_coverage",
      .obj [("has_test_file", .bool p.coverage.hasTest),
        ("assertion_count", .num p.coverage.assertions)]),
    ("briefing", .str p.briefing)]

namespace Counts

/-- Numbers by the names of levels. -/
def toJson (counts : Counts) : Json :=
  .obj (counts.entries.map fun (level, n) => (level.name, .num n))

end Counts

namespace AnalysisResult

/-- The members of a report. -/
def members (r : AnalysisResult) : List (String × Json) :=
  if r.policy = .score then
    [("files", .arr (r.files.map (·.score.toJson))), ("overall", .num r.overall),
      ("recommendations", .strings r.recommendations)]
  else
    [("files", .arr (r.files.map (·.risk.toJson))), ("summary", .str r.summary),
      ("counts", r.counts.toJson), ("action_items", .strings r.recommendations)]

/-- A report. -/
def toJson (r : AnalysisResult) : Json := .obj r.members

end AnalysisResult

end Preflight
