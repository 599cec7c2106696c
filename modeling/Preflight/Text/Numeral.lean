import Preflight.Text.Blank
import Preflight.Text.Digit

/-!
# Whole numbers in text

A whole number is written with digits of any script, a sign before them or none, single
underscores between digits, and blanks around it all.

## Main definitions

* `readDigits?`: the number a run of digits and underscores denotes.
* `readInt?`: the number a text denotes.
* `digitLimit`: the number of digits beyond which a numeral is refused.
-/

namespace Preflight.Text

/-- The number of digits beyond which a numeral is refused. -/
def digitLimit : Nat := 4300

/-- The digits of a numeral, in which an underscore may stand between two digits. The flag says
that a digit came just before. -/
def digitValues? (afterDigit : Bool) : List Char → Option (List Nat)
  | [] => if afterDigit then some [] else none
  | c :: rest =>
    if c = '_' then
      if afterDigit then digitValues? false rest else none
    else match digitValue? c with
      | some d => (digitValues? true rest).map (d :: ·)
      | none => none

/-- The number a list of digits denotes in a base. -/
def ofDigits (base : Nat) (ds : List Nat) : Nat := ds.foldl (fun n d => n * base + d) 0

/-- The number a run of digits and underscores denotes. -/
def readDigits? (cs : List Char) : Option Nat :=
  match digitValues? false cs with
  | some ds => if ds.length ≤ digitLimit then some (ofDigits 10 ds) else none
  | none => none

/-- The number a text denotes. -/
def readInt? (cs : List Char) : Option Int :=
  match strip cs with
  | '-' :: rest => (readDigits? rest).map fun n => -(n : Int)
  | '+' :: rest => (readDigits? rest).map fun n => (n : Int)
  | rest => (readDigits? rest).map fun n => (n : Int)

end Preflight.Text
