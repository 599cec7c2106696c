import Preflight.Scoring.Band

/-!
# The score of a file

Five measures of a file are scored apart; their weighted mean is the score of the file, and the
worst of them names what to do about it.

## Main definitions

* `SignalScores`, `signalScores`: the five scores.
* `weightedScore`: their weighted mean, rounded.
* `topIssue?`: what the worst of them says.
* `FileScore`, `scoreFile`: the score of a file.
* `repoScore`: the score of a project.
-/

namespace Preflight

/-- What is scored. -/
inductive Axis where
  | functionLength
  | coupling
  | testCoverage
  | commentDensity
  | fileSize
  deriving DecidableEq, Repr

namespace Axis

/-- The axes, the ones first that name the issue where several are worst. -/
def all : List Axis := [functionLength, coupling, testCoverage, commentDensity, fileSize]

/-- The weight of an axis in hundredths. -/
def weight : Axis → Int
  | functionLength => 30
  | coupling | testCoverage => 25
  | commentDensity | fileSize => 10

/-- What is wrong with a file that is bad on an axis, and what to do about it. -/
def issue : Axis → String × String
  | functionLength => ("function too long", "split into smaller functions")
  | coupling => ("high coupling", "extract shared utils")
  | testCoverage => ("no tests", "add test file")
  | commentDensity => ("low comments", "add doc comments")
  | fileSize => ("file too large", "split into modules")

end Axis

/-- A score for every axis. -/
structure SignalScores where
  functionLength : Int
  coupling : Int
  testCoverage : Int
  commentDensity : Int
  fileSize : Int
  deriving DecidableEq, Repr, Inhabited

namespace SignalScores

/-- The score on an axis. -/
def on (s : SignalScores) : Axis → Int
  | .functionLength => s.functionLength
  | .coupling => s.coupling
  | .testCoverage => s.testCoverage
  | .commentDensity => s.commentDensity
  | .fileSize => s.fileSize

/-- The best score on every axis. -/
def perfect : SignalScores := ⟨100, 100, 100, 100, 100⟩

end SignalScores

/-- The score of a file: nothing is asked of a blank one. -/
def signalScores (facts : FileFacts) : SignalScores :=
  if facts.blank then .perfect
  else
    { functionLength := functionLengthScore facts.source.functions
      coupling := couplingScore facts.source.importCount
      testCoverage := coverageScore facts.coverage.hasTest
      commentDensity := commentDensityScore facts.source.commentLines facts.source.totalLines
      fileSize := fileSizeScore facts.source.totalLines }

/-- The weighted mean of the scores, a half rounded up. -/
def weightedScore (s : SignalScores) : Int :=
  ((Axis.all.map fun axis => s.on axis * axis.weight).foldr (· + ·) 0 + 50).fdiv 100

/-- The score from which on a file has no issue. -/
def cleanThreshold : Int := 70

/-- The first of the axes on which the score is lowest. -/
def worstAxis (s : SignalScores) : Axis :=
  Axis.all.foldl (fun worst axis => if s.on axis < s.on worst then axis else worst)
    .functionLength

/-- What is wrong on the worst axis and what to do about it; none for a clean file. -/
def topIssue? (s : SignalScores) : Option (String × String) :=
  if cleanThreshold ≤ s.on (worstAxis s) then none else some (worstAxis s).issue

/-- The score of a file, with what is wrong and what to do about it. -/
structure FileScore where
  path : FileId
  score : Int
  issues : List String := []
  signals : Option SignalScores := none
  deriving DecidableEq, Repr, Inhabited

/-- The issue of a file that cannot be read. -/
def unreadableIssue : String := "file unreadable"

/-- The score of a file. -/
def scoreFile (facts : FileFacts) : FileScore :=
  if facts.readable then
    let signals := signalScores facts
    { path := facts.path
      score := weightedScore signals
      issues := match topIssue? signals with
        | some (issue, fix) => [issue, fix]
        | none => []
      signals := some signals }
  else { path := facts.path, score := 0, issues := [unreadableIssue] }

@[simp] theorem scoreFile_path (facts : FileFacts) : (scoreFile facts).path = facts.path := by
  rw [scoreFile]
  split
  · rfl
  · rfl

/-- A quotient of the facts is too large to be written as a number of sixty-four bits. -/
def FileFacts.overflows (facts : FileFacts) : Bool :=
  (averageFunctionLines? facts.source.functions).isNone ||
    (!facts.blank && facts.source.totalLines != 0 &&
      (commentRatio? facts.source.commentLines facts.source.totalLines).isNone)

/-- The score of a project without files. -/
def emptyRepoScore : Int := 100

/-- The mean of the scores of files, a half rounded up. -/
def repoScore (scores : List Int) : Int :=
  if scores.isEmpty then emptyRepoScore
  else
    let total : Int := scores.foldr (· + ·) 0
    (2 * total + scores.length).fdiv (2 * scores.length)

end Preflight
