import Preflight.Analysis

/-!
# Guidance

What is said about all files of a scan together: what to do first, and how the project stands.

## Main definitions

* `actionCandidates`, `takeUp`, `actionItems`: what to do before working on risky files.
* `riskSummary`, `scoreSummary`: how the project stands.
* `scoreRecommendations`: which files to improve first.
-/

namespace Preflight

/-- The number of things to do at once. -/
def maxActionItems : Int := 5

/-- A file with more importers than this shares its state widely. -/
def highFanIn : Nat := 2

/-- The importers without tests that a file has. -/
def untestedItem? (p : RiskProfile) : Option String :=
  if p.downstreamUntested.isEmpty || p.incomingDeps.isEmpty then none
  else some ("add tests for " ++ nameList p.downstreamUntested namedImporters ++
    " before editing " ++ p.file ++ " (" ++ plural p.incomingDeps.length "importer" "s" ++ ")")

/-- The first file in a cycle with a file. -/
def circularItem? (p : RiskProfile) : Option String :=
  p.circularDeps.head?.map fun first =>
    "read " ++ first ++ " before editing " ++ p.file ++ " (circular dependency)"

/-- The state a file shares with many others. -/
def sharedStateItem? (p : RiskProfile) : Option String :=
  if p.globalMutations.isEmpty || p.incomingDeps.length ≤ highFanIn then none
  else some ("isolate shared state (" ++ mutationNames p.globalMutations ++ ") in " ++ p.file ++
    ": imported by " ++ plural p.incomingDeps.length "file" "s")

/-- All there is to do, the most urgent first. -/
def actionCandidates (results : List FileResult) : List String :=
  let profiles := results.map (·.risk)
  profiles.filterMap untestedItem? ++ profiles.filterMap circularItem? ++
    profiles.filterMap sharedStateItem?

/-- What is to be done, taken up one thing after another behind what was taken before: each once,
until there is enough. Whether there is enough is asked after one was taken. -/
def takeUp (limit : Int) (taken : List String) : List String → List String
  | [] => taken
  | candidate :: rest =>
    if taken.contains candidate then takeUp limit taken rest
    else
      let more := taken ++ [candidate]
      if limit ≤ more.length then more else takeUp limit more rest

/-- The first things to do, each once, up to a limit. -/
def actionItems (results : List FileResult) (limit : Int) : List String :=
  takeUp limit [] (actionCandidates results)

/-- How a project stands by the number of files at each level. -/
def riskSummary (counts : Counts) (total : Int) : String :=
  let high := counts.number .high
  let medium := counts.number .medium
  let low := counts.number .low
  let attention := high + medium
  if attention = 0 then plural total "file" "s" ++ " analyzed. all clear, safe to start."
  else
    let parts := (if high = 0 then [] else [toString high ++ " high risk"]) ++
      (if medium = 0 then [] else [toString medium ++ " medium"]) ++
      (if low = 0 then [] else [toString low ++ " low"])
    ". ".intercalate parts ++ ". " ++ plural attention "file" "s" ++
      (if attention = 1 then " needs" else " need") ++
      " attention before starting your session."

/-- A file with a lower score should be split. -/
def splitThreshold : Int := 40

/-- A project with a lower score needs a nudge. -/
def nudgeThreshold : Int := 80

/-- The nudge. -/
def nudge : String := "add test files for untested modules"

/-- Which files to improve first, for files the lowest score first and the score of the
project. -/
def scoreRecommendations (ordered : List FileResult) (overall : Int) : List String :=
  match ordered.filter fun r => r.score.score < splitThreshold with
  | [] => if overall < nudgeThreshold then [nudge] else []
  | worst :: others =>
    ("split " ++ worst.path ++ " into smaller files first (biggest win)") ::
      (others.take 2).filterMap fun r =>
        r.score.issues.head?.map fun issue => issue ++ " in " ++ r.path

/-- How a project stands by its score. -/
def scoreSummary (overall total : Int) : String :=
  let verdict :=
    if 70 ≤ overall then "AI-ready"
    else if 40 ≤ overall then "some modules need work before AI sessions"
    else "significant refactoring needed"
  plural total "file" "s" ++ " scored. overall " ++ toString overall ++ "/100: " ++ verdict ++ "."

end Preflight
