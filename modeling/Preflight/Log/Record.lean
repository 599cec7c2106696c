/-!
# Log records

What a run reports about itself: a message with its level and the part of the program it comes
from.

## Main definitions

* `LogLevel`: how much a message matters.
* `Record`: a message.
* `Record.consoleLine`, `Record.fileLine`: how a message is written.
-/

namespace Preflight

/-- How much a message matters. -/
inductive LogLevel where
  | debug
  | info
  | warning
  | error
  | critical
  deriving DecidableEq, Repr, Inhabited

namespace LogLevel

/-- All levels, those that matter least first. -/
def all : List LogLevel := [debug, info, warning, error, critical]

/-- The name of a level. -/
def name : LogLevel → String
  | debug => "DEBUG"
  | info => "INFO"
  | warning => "WARNING"
  | error => "ERROR"
  | critical => "CRITICAL"

/-- The level of a name. -/
def ofName? (s : String) : Option LogLevel := all.find? (·.name == s)

theorem ofName?_name (l : LogLevel) : ofName? l.name = some l := by cases l <;> rfl

/-- The weight of a level. -/
def weight : LogLevel → Nat
  | debug => 10
  | info => 20
  | warning => 30
  | error => 40
  | critical => 50

/-- A level matters at least as much as another. -/
def reaches (l bound : LogLevel) : Bool := bound.weight ≤ l.weight

end LogLevel

/-- The name of the log as a whole. -/
def logName : String := "aiready"

/-- The full name of a part of the log, of the log as a whole where no part is named. -/
def fullLogName (part : String) : String := if part = "" then logName else logName ++ "." ++ part

/-- A message with its level and the part of the program it comes from. -/
structure Record where
  level : LogLevel
  part : String
  message : String
  deriving DecidableEq, Repr, Inhabited

namespace Record

/-- The full name of the part of the log that a record belongs to. -/
def source (r : Record) : String := fullLogName r.part

/-- How a message is written to the console. -/
def consoleLine (r : Record) : String :=
  "[" ++ logName ++ "] " ++ r.level.name ++ " " ++ r.message ++ "\n"

/-- How a message is written to a log file, after the time. -/
def fileLine (r : Record) : String :=
  r.level.name ++ " " ++ r.source ++ ": " ++ r.message ++ "\n"

end Record

end Preflight
