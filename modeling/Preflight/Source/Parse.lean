import Preflight.Source.Grammar.Statement
import Preflight.Source.Grammar.Markup

/-!
# Reading source text

The rules of the grammar are tied together by depth: at depth zero every rule fails, and at each
greater depth a rule may refer to the rules one level below. Rules refer to others after taking
at least one character but for a fixed number of steps, so a depth in proportion to the length of
the text lets every text be read to its end.

## Main definitions

* `Grammar.body`: what each rule stands for, in terms of the rules below.
* `Grammar.rulesAt`: the rules at a depth.
* `parse?`: the tree of a text, if the text follows the grammar.
-/

namespace Preflight.Source

namespace Grammar

/-- What each rule stands for, in terms of the rules one level below. -/
def body (rules : Rules) : Rules
  | .statement => statementRule rules
  | .block => blockRule rules
  | .expressions => expressionsRule rules
  | .expression => expressionRule rules
  | .operand => operandRule rules
  | .callee => calleeRule rules
  | .binding => bindingRule rules
  | .target => targetRule rules
  | .parameters => parametersRule rules
  | .classBody => classBodyRule rules
  | .element => elementRule rules
  | .type => typeRule rules
  | .plainType => plainTypeRule rules
  | .singleType => singleTypeRule rules

/-- The rules at a depth. -/
def rulesAt : Nat → Rules
  | 0 => fun _ => failure
  | n + 1 => fun r => body (rulesAt n) r

/-- The row of every position of a text, and of its end. -/
def rowTable (cs : Chars) : Array Nat :=
  (cs.foldl (fun (rows, row) c => (rows.push row, if c == '\n' then row + 1 else row))
    ((#[] : Array Nat), 0)) |> fun (rows, row) => rows.push row

/-- The position after a first line that tells a system how to run the text. -/
def afterRunLine (cs : Chars) : Nat :=
  if standsAt cs 0 "#!" then scanWhile (!isLineEnd ·) cs 0 else 0

/-- How deep rules may nest in a text of a given length. -/
def depthFor (length : Nat) : Nat := 8 * length + 64

end Grammar

/-- The tree of a text, if the text follows the grammar of its dialect. -/
def parse? (d : Dialect) (text : String) : Option Node :=
  let cs : Chars := text.toList.toArray
  let i := Grammar.afterRunLine cs
  let start : Grammar.Cursor := { stop := i, token := tokenAt cs i }
  let around : Grammar.Context := { dialect := d, chars := cs, rows := Grammar.rowTable cs }
  ((Grammar.program (Grammar.rulesAt (Grammar.depthFor cs.size))).run around |>.run start).map (·.1)

end Preflight.Source
