import Preflight.Number.Binary64
import Preflight.Facts

/-!
# Bands

A measure of a file is turned into a score by a few cut-offs: the score of the first one that
the measure exceeds, or the best score.

## Main definitions

* `Scale`, `Scale.score`: cut-offs and the score they give.
* `functionLengthScale`, `couplingScale`, `fileSizeScale`, `commentDensityScale`: the scales.
* `SourceFacts.averageLines?`, `SourceFacts.commentRatio?`: the measures that are quotients.
-/

namespace Preflight

open Preflight.Source

/-- Cut-offs, the highest first, each with the score of what exceeds it, and the score of what
exceeds none. -/
structure Scale (α : Type) where
  steps : List (α × Int)
  otherwise : Int

/-- The score of a measure, told which cut-offs it exceeds. -/
def Scale.score {α : Type} (scale : Scale α) (exceeds : α → Bool) : Int :=
  match scale.steps.find? fun step => exceeds step.1 with
  | some step => step.2
  | none => scale.otherwise

/-- The scale of the mean number of lines of a function. -/
def functionLengthScale : Scale Int := ⟨[(50, 0), (30, 40), (20, 70)], 100⟩

/-- The scale of the number of imports. -/
def couplingScale : Scale Int := ⟨[(8, 0), (5, 40), (3, 70)], 100⟩

/-- The scale of the number of lines. -/
def fileSizeScale : Scale Int := ⟨[(500, 0), (300, 40), (150, 70)], 100⟩

/-- The scale of the share of comment lines, in hundredths. -/
def commentDensityScale : Scale Int := ⟨[(10, 100), (5, 70), (1, 40)], 10⟩

/-- A whole measure exceeds a cut-off. -/
def exceedsInt (n cutoff : Int) : Bool := cutoff < n

/-- A rounded measure exceeds a whole cut-off. A quotient that is too large exceeds every one if
it is positive. -/
def exceedsWhole (positive : Bool) (q : Option Binary64) (cutoff : Int) : Bool :=
  match q with
  | some v => v.exceeds (.ofInt cutoff)
  | none => positive

/-- A rounded measure exceeds a cut-off in hundredths, itself rounded. -/
def exceedsHundredths (positive : Bool) (q : Option Binary64) (cutoff : Int) : Bool :=
  match q, Binary64.ofQuotient? cutoff 100 with
  | some v, some c => v.exceeds c
  | _, _ => positive

/-- The number of lines of all functions together. -/
def totalFunctionLines (functions : List FunctionSpan) : Int :=
  (functions.map (·.lineCount)).foldr (· + ·) 0

/-- The mean number of lines of a function, zero where there is none; none where it is too
large. -/
def averageFunctionLines? (functions : List FunctionSpan) : Option Binary64 :=
  if functions.isEmpty then some (.ofInt 0)
  else Binary64.ofQuotient? (totalFunctionLines functions) functions.length

/-- The score of the lengths of functions. A file without functions has none that is too
long. -/
def functionLengthScore (functions : List FunctionSpan) : Int :=
  if functions.isEmpty then functionLengthScale.otherwise
  else functionLengthScale.score
    (exceedsWhole (0 < totalFunctionLines functions) (averageFunctionLines? functions))

/-- The score of a number of imports. -/
def couplingScore (imports : Int) : Int := couplingScale.score (exceedsInt imports)

/-- The score of a number of lines. -/
def fileSizeScore (lines : Int) : Int := fileSizeScale.score (exceedsInt lines)

/-- The score of having tests. -/
def coverageScore (hasTest : Bool) : Int := if hasTest then 100 else 0

/-- The share of comment lines; none where it is too large. -/
def commentRatio? (comments lines : Int) : Option Binary64 := Binary64.ofQuotient? comments lines

/-- The score of a share of comment lines. A file without lines needs none. -/
def commentDensityScore (comments lines : Int) : Int :=
  if lines = 0 then 100
  else commentDensityScale.score
    (exceedsHundredths ((comments < 0) == (lines < 0)) (commentRatio? comments lines))

end Preflight
