/-!
# Risk levels and policies

## Main definitions

* `RiskLevel`: how risky it is to change a file.
* `Policy`: what a report is about.
-/

namespace Preflight

/-- How risky it is to change a file. An analysis yields one of three levels; reports made
elsewhere may name others. -/
inductive RiskLevel where
  | high
  | medium
  | low
  | custom (name : String)
  deriving DecidableEq, Repr, Inhabited

namespace RiskLevel

/-- The levels of an analysis, the riskiest first. -/
def all : List RiskLevel := [high, medium, low]

/-- The name of a level. -/
def name : RiskLevel → String
  | high => "high"
  | medium => "medium"
  | low => "low"
  | custom n => n

/-- The level with a name. -/
def ofName (s : String) : RiskLevel := (all.find? (·.name == s)).getD (custom s)

/-- The place of a level in the order of reports. -/
def rank : RiskLevel → Nat
  | high => 0
  | medium => 1
  | low => 2
  | custom _ => 3

end RiskLevel

/-- What a report is about: the risk of changing files, or their score. Reports made elsewhere
may name another policy. -/
inductive Policy where
  | risk
  | score
  | custom (name : String)
  deriving DecidableEq, Repr, Inhabited

namespace Policy

/-- The policies of an analysis. -/
def all : List Policy := [risk, score]

/-- The name of a policy. -/
def name : Policy → String
  | risk => "risk"
  | score => "score"
  | custom n => n

/-- The policy with a name. -/
def ofName (s : String) : Policy := (all.find? (·.name == s)).getD (custom s)

/-- An analysis can follow the policy. -/
def isKnown (p : Policy) : Bool := all.contains p

end Policy

end Preflight
