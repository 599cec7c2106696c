import Preflight.Risk.Level
import Preflight.Facts

/-!
# Risk profiles

What makes it risky to change a file: its place in the import graph, the tests of its importers,
its own tests, and shared state and missing types in its text.

## Main definitions

* `RiskProfile`: the level of a file and the facts behind it.
* `RiskEvidence`, `classifyRisk`: what the level depends on, and the level.
-/

namespace Preflight

open Preflight.Source

/-- The risk of changing a file, and the facts behind it. -/
structure RiskProfile where
  file : FileId
  level : RiskLevel
  circularDeps : List FileId := []
  inCycle : Bool := false
  incomingDeps : List FileId := []
  downstreamUntested : List FileId := []
  globalMutations : List GlobalMutation := []
  missingReturnTypes : Int := 0
  coverage : TestCoverage := TestCoverage.missing
  briefing : String := ""
  deriving DecidableEq, Repr, Inhabited

/-- What the level of a file depends on. -/
structure RiskEvidence where
  circular : Nat
  inCycle : Bool
  incoming : Nat
  untested : Nat
  hasTest : Bool
  mutations : Int
  missing : Int
  deriving DecidableEq, Repr, Inhabited

namespace RiskEvidence

/-- The evidence for the highest level. -/
def isHigh (e : RiskEvidence) : Bool :=
  e.circular != 0 || e.inCycle || (5 < e.incoming && !e.hasTest) ||
    (3 < e.incoming && 2 < e.untested) || 2 < e.mutations || 5 < e.missing

/-- The evidence for the middle level, where there is none for the highest. -/
def isMedium (e : RiskEvidence) : Bool :=
  (2 < e.incoming && !e.hasTest) || 0 < e.mutations || 2 < e.missing || !e.hasTest

end RiskEvidence

/-- The level that evidence leads to. -/
def classifyRisk (e : RiskEvidence) : RiskLevel :=
  if e.isHigh then .high else if e.isMedium then .medium else .low

/-- The evidence a profile holds. -/
def RiskProfile.evidence (p : RiskProfile) : RiskEvidence :=
  { circular := p.circularDeps.length
    inCycle := p.inCycle
    incoming := p.incomingDeps.length
    untested := p.downstreamUntested.length
    hasTest := p.coverage.hasTest
    mutations := p.globalMutations.length
    missing := p.missingReturnTypes }

end Preflight
