import Preflight.Source.Token
import Preflight.Source.Tree

/-!
# Reading by rules

The grammar is a family of rules, each a parser that takes tokens from the front of the text and
yields a node, or fails. A rule that needs another one, or itself, further down asks for it by
name, so that each rule is a plain definition over "what the rules below yield". How deep rules
may nest is bounded only where the family is tied together.

## Main definitions

* `Cursor`, `Context`, `Parser`: the state between tokens, what a rule may ask of its
  surroundings, and parsers.
* `Rule`, `Rules`: the names of rules that others refer to, and what they stand for.
* `mark`, `word`, `construct`, `commaList`: the pieces rules are written with.
* `endStatement`: a semicolon, or a place where none is needed.
-/

namespace Preflight.Source.Grammar

/-- Where reading stands: the end of the last token taken, and the next token. -/
structure Cursor where
  stop : Nat
  token : Token

/-- What surrounds the construct being read. -/
structure Context where
  dialect : Dialect
  chars : Chars
  /-- The row of every position of the text. -/
  rows : Array Nat
  /-- Inside brackets, the end of a line ends no statement. -/
  enclosed : Bool := false
  /-- Between the question mark and the colon of a choice, where a colon after a list of
  parameters may belong to the choice. -/
  consequence : Bool := false

/-- A parser fails or yields a value and the place where reading goes on. -/
abbrev Parser (α : Type) := ReaderT Context (StateT Cursor Option) α

/-- The rules that other rules refer to. -/
inductive Rule where
  /-- A statement or declaration. -/
  | statement
  /-- Statements in braces. -/
  | block
  /-- One expression or several, parted by commas. -/
  | expressions
  /-- One expression. -/
  | expression
  /-- An expression that binds tighter than every operator of two sides. -/
  | operand
  /-- An operand that can be called, with its members and calls and nothing else. -/
  | callee
  /-- A name or a pattern that takes a value apart. -/
  | binding
  /-- A target of an assignment. -/
  | target
  /-- Parameters in parentheses. -/
  | parameters
  /-- The braces of a class. -/
  | classBody
  /-- A markup element. -/
  | element
  /-- A type. -/
  | type
  /-- A type that is no choice between two types. -/
  | plainType
  /-- A type that is no combination of types. -/
  | singleType
  deriving DecidableEq, Repr

/-- What each name of a rule stands for. -/
abbrev Rules := Rule → Parser Node

/-! ### Tokens -/

/-- The next token. -/
def peek : Parser Token := return (← get).token

/-- Go on reading at a position. -/
def moveTo (i : Nat) : Parser Unit := do
  set ({ stop := i, token := tokenAt (← read).chars i } : Cursor)

/-- Pass over the next token. -/
def advance : Parser Unit := do moveTo (← peek).stop

/-- The token after the next one. -/
def peekSecond : Parser Token := return tokenAt (← read).chars (← peek).stop

/-- The dialect of the text. -/
def dialect : Parser Dialect := return (← read).dialect

/-- Go on only if a condition holds. -/
def require (b : Bool) : Parser Unit := if b then pure () else failure

/-- The row of a position. -/
def rowAt (i : Nat) : Parser Nat := return ((← read).rows[i]?).getD 0

/-- The next token is a given mark. -/
def atMark (m : String) : Parser Bool := return (← peek).isMark m

/-- The next token is one of some marks. -/
def atOneOf (ms : List String) : Parser Bool := do
  let t ← peek
  return t.form == .mark && ms.contains t.text

/-- The next token is a given word. -/
def atWord (w : String) : Parser Bool := return (← peek).isWord w

/-- A line ends between the last token and the next. -/
def lineEndsHere : Parser Bool := do
  return (gapFrom (← read).chars (← get).stop {}).line

/-- The next token is on the line of the last one, or line ends do not count here. -/
def sameLine : Parser Bool := do
  return (← read).enclosed || !(← lineEndsHere)

/-! ### Nodes -/

/-- Take the next token as a leaf. -/
def leaf (kind : String) (named : Bool) : Parser Node := do
  let t ← peek
  advance
  return .mk kind named none (← rowAt t.start) (← rowAt t.stop) (some t.text) []

/-- Take a given mark. -/
def mark (m : String) : Parser Node := do
  require (← atMark m)
  leaf m false

/-- Take a given keyword. -/
def word (w : String) : Parser Node := do
  require (← atWord w)
  leaf w false

/-- Take a given mark if it is next. -/
def optionalMark (m : String) : Parser (List Node) := do
  if ← atMark m then return [← mark m] else return []

/-- Take one of some marks if it is next. -/
def optionalOneOf (ms : List String) : Parser (List Node) := do
  if ← atOneOf ms then return [← leaf (← peek).text false] else return []

/-- Take a given keyword if it is next. -/
def optionalWord (w : String) : Parser (List Node) := do
  if ← atWord w then return [← word w] else return []

/-- A node whose children a parser yields. -/
def construct (kind : String) (children : Parser (List Node)) : Parser Node := do
  let start := (← peek).start
  let c ← children
  return .mk kind true none (← rowAt start) (← rowAt (← get).stop) none c

/-- A node that goes on from a first child already taken. -/
def grow (kind : String) (first : Node) (rest : List Node) : Parser Node := do
  return .mk kind true none first.startRow (← rowAt (← get).stop) none (first :: rest)

/-- The same node with the text it was read from. -/
def keepText (p : Parser Node) : Parser Node := do
  let start := (← peek).start
  let n ← p
  return n.withText (slice (← read).chars start (← get).stop)

/-- A node in a role. -/
def role (r : String) (p : Parser Node) : Parser Node := return (← p).withRole r

/-! ### Repetition -/

/-- Repeat a step until it yields nothing, at most a number of times. -/
def manyUpTo {α : Type} : Nat → Parser (Option α) → List α → Parser (List α)
  | 0, _, acc => return acc.reverse
  | n + 1, step, acc => do
    match ← step with
    | none => return acc.reverse
    | some a => manyUpTo n step (a :: acc)

/-- Repeat a step until it yields nothing. Each step takes at least one character, so the length
of the text bounds their number. -/
def many {α : Type} (step : Parser (Option α)) : Parser (List α) := do
  manyUpTo ((← read).chars.size + 1) step []

/-- Repeat a step until a mark is next. -/
def untilMark (m : String) (step : Parser (List Node)) : Parser (List Node) := do
  let parts ← many do
    if ← atMark m then return none
    return some (← step)
  return parts.flatten

/-- Items parted by commas up to a closing mark, which is not taken. The last item may be
followed by a comma; with `holes`, items may be left out. -/
def commaList (close : String) (holes : Bool) (item : Parser Node) : Parser (List Node) :=
  untilMark close do
    if ← atMark "," then
      require holes
      return [← mark ","]
    let n ← item
    if ← atMark close then return [n]
    return [n, ← mark ","]

/-- One item or more, parted by commas, with none at the end. -/
def commaSeparated (item : Parser Node) : Parser (List Node) := do
  let first ← item
  let rest ← many do
    if ← atMark "," then
      let comma ← mark ","
      return some [comma, ← item]
    return none
  return first :: rest.flatten

/-- Read inside brackets, where line ends do not count. -/
def inBrackets {α : Type} (p : Parser α) : Parser α :=
  withReader (fun c => { c with enclosed := true, consequence := false }) p

/-- Read at the level of statements, where line ends count. -/
def outsideBrackets {α : Type} (p : Parser α) : Parser α :=
  withReader (fun c => { c with enclosed := false, consequence := false }) p

/-- Read one thing if another parser can, and yield nothing where it fails. -/
def attempt {α : Type} (p : Parser α) : Parser (Option α) :=
  (some <$> p) <|> pure none

/-! ### Ends of statements -/

/-- A statement may end here with no semicolon. -/
def mayEnd (operatorFits : Bool) : Parser Bool := do
  return endsStatement (← dialect) (← read).chars (← get).stop operatorFits

/-- A semicolon, or a place where a statement may end without one. -/
def endStatement : Parser (List Node) := do
  if ← mayEnd true then
    return []
  return [← mark ";"]

/-! ### Names -/

/-- Words that stand for themselves in plain script and cannot be names there. -/
def reservedWords : List String :=
  ["break", "case", "catch", "class", "const", "continue", "debugger", "default", "delete", "do",
   "else", "export", "extends", "false", "finally", "for", "function", "if", "import", "in",
   "instanceof", "new", "null", "return", "super", "switch", "this", "throw", "true", "try",
   "typeof", "var", "void", "while", "with"]

/-- The next token may be the name of something declared. -/
def atName : Parser Bool := do
  let t ← peek
  return t.form == .word && ((← dialect).hasTypes || !reservedWords.contains t.text)

/-- A declared or used name. -/
def identifier : Parser Node := do
  require (← atName)
  leaf "identifier" true

/-- Any word, as the name of a member. -/
def memberName : Parser Node := do
  require ((← peek).form == .word)
  leaf "property_identifier" true

/-- The name of a type. -/
def typeName : Parser Node := do
  require (← atName)
  leaf "type_identifier" true

/-- A quoted string. -/
def stringLiteral : Parser Node := do
  let t ← peek
  require (t.form == .string)
  leaf "string" true

end Preflight.Source.Grammar
