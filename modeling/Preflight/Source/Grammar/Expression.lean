import Preflight.Source.Grammar.ClassBody

/-!
# Expressions

The rules for expressions, from names and literals up to choices and sequences. An assignment or
a function may stand as the right operand of an operator, and then takes all that follows.

A parenthesis or an angle bracket may open the parameters of a function with an arrow. The head
up to the arrow is tried first; once an arrow is found the reading is settled.

## Main definitions

* `calleeRule`, `operandRule`, `expressionRule`, `expressionsRule`: the rules of those names.
* `Chain`: operands and operators, grouped by how strongly the operators bind.
-/

namespace Preflight.Source.Grammar

variable (rules : Rules)

/-! ### Functions -/

/-- A function from its keyword on, with the kinds for plain functions and generators. -/
def functionFrom (kind generatorKind : String) (nameRequired : Bool) : Parser Node := do
  let start := (← peek).start
  let async ← optionalWord "async"
  let w ← word "function"
  let star ← optionalMark "*"
  let name ← if ← atName then (return [← role "name" identifier]) else pure []
  require (!nameRequired || !name.isEmpty)
  let sig ← callSignature rules
  let body ← role "body" (rules .block)
  return .mk (if star.isEmpty then kind else generatorKind) true none (← rowAt start)
    (← rowAt (← get).stop) none (async ++ [w] ++ star ++ name ++ sig ++ [body])

/-- The body of a function with an arrow. -/
def arrowBody : Parser Node := do
  if ← atMark "\x7b" then rules .block else rules .expression

/-- A token that may be the first inside the parentheses of an arrow's parameters, with the one
after it. -/
def startsParameters (d : Dialect) (s u : Token) : Bool :=
  if s.isMark ")" then u.isMark "=>" || (d.hasTypes && u.isMark ":")
  else if s.form == .word then
    u.isMark "," || u.isMark "=" || u.isMark ")" ||
      (d.hasTypes && (u.isMark ":" || u.isMark "?" || u.form == .word || u.isMark "[" ||
        u.isMark "\x7b"))
  else s.isMark "..." || s.isMark "[" || s.isMark "\x7b" || s.isMark "@"

/-- The parameters of a function with an arrow, up to and with the arrow. -/
def arrowHead : Parser (List Node) := do
  let d ← dialect
  let async ← if (← atWord "async") && !(← peekSecond).isMark "=>" then
    (return [← word "async"]) else pure []
  if (← atName) && (← peekSecond).isMark "=>" then
    let p ← role "parameter" identifier
    return async ++ [p, ← mark "=>"]
  let ts ← optionalTypeParameters rules
  let cs := (← read).chars
  let s ← peekSecond
  require ((← atMark "(") && startsParameters d s (tokenAt cs s.stop))
  let ps ← role "parameters" (rules .parameters)
  let result ← optionalResult rules
  return async ++ ts ++ [ps] ++ result ++ [← mark "=>"]

/-- The next token may start a function with an arrow. -/
def atArrowHead : Parser Bool := do
  let d ← dialect
  let t ← peek
  let s ← peekSecond
  if t.form == .word then
    return s.isMark "=>" ||
      (t.text == "async" && (s.form == .word || s.isMark "(" || (d.hasTypes && s.isMark "<")))
  return t.isMark "(" || (d.hasTypes && t.isMark "<")

/-- A function with an arrow, if one stands here. -/
def arrowFunction? : Parser (Option Node) := do
  if !(← atArrowHead) then return none
  let start := (← peek).start
  let before ← get
  let choosing := (← read).consequence
  match ← attempt (arrowHead rules) with
  | none => return none
  | some head =>
    let finish : Parser Node := do
      let body ← role "body" (arrowBody rules)
      return .mk "arrow_function" true none (← rowAt start) (← rowAt (← get).stop) none
        (head ++ [body])
    if choosing && head.any (·.role == some "return_type") then
      match ← attempt (do let f ← finish; require (← atMark ":"); return f) with
      | some f => return some f
      | none => set before; return none
    else return some (← finish)

/-! ### Objects and arrays -/

/-- A member of an object: a spread, a method, a pair, or a name for itself. -/
def objectMember : Parser Node := do
  if ← atMark "..." then spread rules
  else
    let start := (← peek).start
    let ws ← modifiers ["async", "get", "set", "static"] ["*"]
    let star ← optionalMark "*"
    if ws.isEmpty && star.isEmpty && (← atName) &&
        ((← peekSecond).isMark "," || (← peekSecond).isMark "\x7d") then
      leaf "shorthand_property_identifier" true
    else
      let name ← propertyName rules
      if ws.isEmpty && star.isEmpty && (← atMark ":") then
        let colon ← mark ":"
        grow "pair" (name.withRole "key") [colon, ← role "value" (rules .expression)]
      else
        let sign ← if (← dialect).hasTypes then optionalMark "?" else pure []
        let sig ← callSignature rules
        let body ← role "body" (rules .block)
        return .mk "method_definition" true none (← rowAt start) (← rowAt (← get).stop) none
          (ws ++ star ++ [name.withRole "name"] ++ sign ++ sig ++ [body])

/-- An object in braces. -/
def object : Parser Node :=
  construct "object" do
    let opening ← mark "\x7b"
    let members ← inBrackets (commaList "\x7d" true (objectMember rules))
    return opening :: members ++ [← mark "\x7d"]

/-- An array in brackets. -/
def array : Parser Node :=
  construct "array" do
    let opening ← mark "["
    let items ← inBrackets (commaList "]" true (element rules))
    return opening :: items ++ [← mark "]"]

/-- A literal in brackets, or a pattern where an equals sign follows. -/
def literalOrPattern (literal pattern : Parser Node) : Parser Node := do
  let before ← get
  match ← attempt literal with
  | some n =>
    if ← atMark "=" then
      set before
      pattern
    else return n
  | none =>
    let n ← pattern
    require ((← atMark "=") || (← atWord "of") || (← atWord "in"))
    return n

/-! ### Primary expressions -/

/-- Expressions in parentheses, with a type in the typed dialects. -/
def parenthesized : Parser Node :=
  construct "parenthesized_expression" do
    let opening ← mark "("
    let inner ← inBrackets do
      let e ← rules .expressions
      return e :: (← optionalColonType rules)
    return opening :: inner ++ [← mark ")"]

/-- The word `import` as a value: called, or asked for its data. -/
def importExpression : Parser Node := do
  let w ← construct "import" do return [← word "import"]
  if ← atMark "." then
    grow "meta_property" w [← mark ".", ← memberName]
  else
    require (← atMark "(")
    return w

/-- Words that are values. -/
def valueWords : List String := ["this", "super", "true", "false", "null", "undefined"]

/-- An expression that starts with a word. -/
def wordExpression : Parser Node := do
  let t ← peek
  let s ← peekSecond
  let d ← dialect
  if valueWords.contains t.text then leaf t.text true
  else if t.text == "function" || (t.text == "async" && s.isWord "function") then
    functionFrom rules "function_expression" "generator_function" false
  else if t.text == "class" then construct "class" (classAfterMarks rules false)
  else if t.text == "import" then importExpression
  else if t.text == "new" then failure
  else
    require (d.hasTypes || !reservedWords.contains t.text)
    identifier

/-- An expression with no operator and no suffix. -/
def primary : Parser Node := do
  let t ← peek
  match t.form with
  | .number => leaf "number" true
  | .string => stringLiteral
  | .template => template "template_string" "template_substitution" (rules .expressions)
  | .privateName =>
    require ((← peekSecond).isWord "in")
    leaf "private_property_identifier" true
  | .word => wordExpression rules
  | .mark =>
    if t.text == "(" then parenthesized rules
    else if t.text == "[" then literalOrPattern (array rules) (arrayPattern rules)
    else if t.text == "\x7b" then literalOrPattern (object rules) (objectPattern rules)
    else if t.text == "/" || t.text == "/=" then pattern
    else if t.text == "<" && (← dialect).hasMarkup then rules .element
    else if t.text == "@" then construct "class" do
      let ms ← decorators rules
      return ms ++ (← classAfterMarks rules false)
    else failure
  | _ => failure

/-! ### Members and calls -/

/-- The name of a member after a point. -/
def pointed : Parser Node := do
  if (← peek).form == .privateName then role "property" (leaf "private_property_identifier" true)
  else role "property" memberName

/-- Type arguments followed by a call or a template, if they stand here. -/
def calledTypeArguments : Parser (Option Node) := do
  if (← dialect).hasTypes && (← atOpenAngle) then
    attempt do
      let args ← role "type_arguments" (typeArguments rules)
      require ((← atMark "(") || (← peek).form == .template)
      return args
  else return none

/-- One suffix of an expression: a member, an index, a call or a template. With `calls` off,
only members. -/
def suffix? (calls : Bool) (n : Node) : Parser (Option Node) := do
  let t ← peek
  if t.form == .template && calls then
    let tpl ← template "template_string" "template_substitution" (rules .expressions)
    return some (← grow "call_expression" (n.withRole "function") [tpl.withRole "arguments"])
  if t.isMark "." then
    let point ← mark "."
    return some (← grow "member_expression" (n.withRole "object") [point, ← pointed])
  if t.isMark "[" then
    let opening ← mark "["
    let index ← role "index" (inBrackets (rules .expressions))
    return some (← grow "subscript_expression" (n.withRole "object")
      [opening, index, ← mark "]"])
  if (← dialect).hasTypes && t.isMark "!" && (← sameLine) then
    return some (← grow "non_null_expression" n [← mark "!"])
  if !calls then return none
  if t.isMark "?." then
    let chain ← mark "?."
    if ← atMark "[" then
      let opening ← mark "["
      let index ← role "index" (inBrackets (rules .expressions))
      return some (← grow "subscript_expression" (n.withRole "object")
        [chain, opening, index, ← mark "]"])
    let args ← calledTypeArguments rules
    if ← atMark "(" then
      let given ← role "arguments" (arguments rules)
      let parts := chain :: args.toList ++ [given]
      return some (← grow "call_expression" (n.withRole "function") parts)
    return some (← grow "member_expression" (n.withRole "object") [chain, ← pointed])
  if t.isMark "(" then
    let given ← role "arguments" (arguments rules)
    return some (← grow "call_expression" (n.withRole "function") [given])
  match ← calledTypeArguments rules with
  | none => return none
  | some args =>
    let given ← if ← atMark "(" then arguments rules
      else template "template_string" "template_substitution" (rules .expressions)
    return some (← grow "call_expression" (n.withRole "function")
      [args, given.withRole "arguments"])

/-- Suffixes as far as they go. -/
def suffixesFrom (calls : Bool) : Nat → Node → Parser Node
  | 0, n => return n
  | k + 1, n => do
    match ← suffix? rules calls n with
    | some m => suffixesFrom calls k m
    | none => return n

/-- A new object: what makes it, with its members but no calls, and its arguments. -/
def newExpression : Parser Node :=
  construct "new_expression" do
    let w ← word "new"
    let maker ← role "constructor" do
      if ← atWord "new" then rules .callee
      else suffixesFrom rules false (← read).chars.size (← primary rules)
    let ts ← if (← dialect).hasTypes && (← atOpenAngle) then
        (return ((← attempt (role "type_arguments" (typeArguments rules))).toList)) else pure []
    let given ← if ← atMark "(" then (return [← role "arguments" (arguments rules)]) else pure []
    return [w, maker] ++ ts ++ given

/-- The rule `callee`: a value with its members and calls. -/
def calleeRule : Parser Node := do
  let head ←
    if ← atWord "new" then
      if (← peekSecond).isMark "." then
        construct "meta_property" do
          return [← word "new", ← mark ".", ← memberName]
      else newExpression rules
    else primary rules
  suffixesFrom rules true (← read).chars.size head

/-! ### Operands -/

/-- The kinds of expressions that can be assigned to. -/
def assignableKinds : List String :=
  ["identifier", "member_expression", "subscript_expression", "non_null_expression",
   "parenthesized_expression", "array_pattern", "object_pattern", "undefined"]

/-- The operators that combine an operation with an assignment. -/
def updatingMarks : List String :=
  ["+=", "-=", "*=", "/=", "%=", "^=", "&=", "|=", ">>=", ">>>=", "<<=", "**=", "&&=", "||=", "??="]

/-- Tokens after which an expression has come to its end. -/
def endsExpression (t : Token) : Bool :=
  t.form == .finish ||
    (t.form == .mark &&
      [")", "]", "\x7d", ",", ";", ":", "=", ".", "?.", "=>", "?"].contains t.text)

/-- Type arguments of a value that is not called, if they stand here and end the value. -/
def instantiation (n : Node) : Parser Node := do
  if (← dialect).hasTypes && (← atOpenAngle) then
    let args ← attempt do
      let args ← role "type_arguments" (typeArguments rules)
      let t ← peek
      require (endsExpression t || (← lineEndsHere))
      return args
    match args with
    | some a => grow "instantiation_expression" n [a]
    | none => return n
  else return n

/-- A value with its suffixes, one more or one less after it, or an assignment to it. -/
def suffixedOperand (n : Node) : Parser Node := do
  let n ← suffixesFrom rules true (← read).chars.size n
  let n ← instantiation rules n
  let t ← peek
  if (t.isMark "++" || t.isMark "--") && (← sameLine) then
    grow "update_expression" (n.withRole "argument") [← leaf t.text false]
  else if t.isMark "=" && assignableKinds.contains n.kind then
    let eq ← mark "="
    grow "assignment_expression" (n.withRole "left") [eq, ← role "right" (rules .expression)]
  else if t.form == .mark && updatingMarks.contains t.text && assignableKinds.contains n.kind then
    let op ← role "operator" (leaf t.text false)
    grow "augmented_assignment_expression" (n.withRole "left")
      [op, ← role "right" (rules .expression)]
  else return n

/-- An expression that gives a value to the caller of a generator. -/
def yieldExpression : Parser Node :=
  construct "yield_expression" do
    let w ← word "yield"
    if ← atMark "*" then return [w, ← mark "*", ← rules .expression]
    if endsExpression (← peek) || (!(← read).enclosed && (← mayEnd false)) then return [w]
    return [w, ← rules .expression]

/-- A type in angle brackets and the value it is claimed for. -/
def typeAssertion : Parser Node :=
  construct "type_assertion" do
    return [← typeArguments rules, ← rules .operand]

/-- The rule `operand`: an expression without operators of two sides, or one that takes all that
follows. -/
def operandRule : Parser Node := do
  let t ← peek
  let s ← peekSecond
  if t.form == .mark && ["!", "~", "+", "-"].contains t.text then
    construct "unary_expression" do
      return [← role "operator" (leaf t.text false), ← role "argument" (rules .operand)]
  else if t.isMark "++" || t.isMark "--" then
    construct "update_expression" do
      return [← role "operator" (leaf t.text false), ← role "argument" (rules .operand)]
  else if t.form == .word && ["typeof", "void", "delete"].contains t.text then
    construct "unary_expression" do
      return [← role "operator" (leaf t.text false), ← role "argument" (rules .operand)]
  else if t.isWord "await" && !endsExpression s then
    construct "await_expression" do
      return [← word "await", ← rules .operand]
  else if t.isWord "yield" && !(s.isMark "=" || s.isMark "=>" || s.isMark ".") then
    yieldExpression rules
  else match ← arrowFunction? rules with
    | some f => suffixedOperand rules f
    | none =>
      if t.isMark "<" && !(← dialect).hasMarkup then typeAssertion rules
      else if t.isWord "new" then suffixedOperand rules (← rules .callee)
      else suffixedOperand rules (← primary rules)

/-! ### Operators -/

/-- How strongly the operators of two sides bind. -/
def operatorPowers : List (String × Nat) :=
  [("??", 1), ("||", 1), ("&&", 2), ("|", 3), ("^", 4), ("&", 5), ("==", 6), ("!=", 6), ("===", 6),
   ("!==", 6), ("<", 7), ("<=", 7), (">", 7), (">=", 7), ("instanceof", 7), ("in", 7), ("<<", 8),
   (">>", 8), (">>>", 8), ("+", 9), ("-", 9), ("*", 10), ("/", 10), ("%", 10), ("**", 11)]

/-- Operands joined by operators, each with how strongly it binds. -/
inductive Chain where
  | operand (n : Node)
  | joined (kind : String) (left : Chain) (op : Node) (power : Nat) (right : Chain)

/-- Add an operator and its right operand at the end of a chain. Equal powers group from the
left, but for powers of numbers. -/
def Chain.push (kind : String) (op : Node) (power : Nat) (n : Node) : Chain → Chain
  | .operand m => .joined kind (.operand m) op power (.operand n)
  | .joined k l o p r =>
    if p < power || (p == power && op.kind == "**") then .joined k l o p (push kind op power n r)
    else .joined kind (.joined k l o p r) op power (.operand n)

/-- The node of a chain. -/
def Chain.toNode : Chain → Node
  | .operand n => n
  | .joined kind l op _ r =>
    let left := l.toNode.withRole "left"
    let right := r.toNode.withRole "right"
    .mk kind true none left.startRow right.endRow none [left, op.withRole "operator", right]

/-- Operators and operands that follow a chain, as far as they go. -/
def chainFrom : Nat → Chain → Parser Chain
  | 0, c => return c
  | k + 1, c => do
    let t ← peek
    let typed := (← dialect).hasTypes
    if typed && (t.isWord "as" || t.isWord "satisfies") && (← sameLine) then
      let kind := if t.text == "as" then "as_expression" else "satisfies_expression"
      let op ← leaf t.text false
      let ty ← if t.text == "as" && (← atWord "const") then leaf "const" false else rules .type
      chainFrom k (c.push kind op 7 ty)
    else
      let power := if t.form == .mark || t.form == .word then operatorPowers.lookup t.text else none
      match power with
      | none => return c
      | some p =>
        let op ← leaf t.text false
        let n ← rules .operand
        chainFrom k (c.push "binary_expression" op p n)

/-- A question mark opens a choice: none does where a parameter or a member is left open. -/
def atChoice : Parser Bool := do
  let s ← peekSecond
  return (← atMark "?") &&
    !((← dialect).hasTypes && (s.isMark ":" || s.isMark ")" || s.isMark ","))

/-- The rule `expression`: operands joined by operators, or a choice between two. -/
def expressionRule : Parser Node := do
  let first ← rules .operand
  let n := (← chainFrom rules (← read).chars.size (.operand first)).toNode
  if ← atChoice then
    let q ← mark "?"
    let yes ← role "consequence" <| withReader (fun c => { c with consequence := true })
      (rules .expression)
    let colon ← mark ":"
    grow "ternary_expression" (n.withRole "condition")
      [q, yes, colon, ← role "alternative" (rules .expression)]
  else return n

/-- The rule `expressions`: one expression, or several parted by commas. -/
def expressionsRule : Parser Node := do
  let first ← rules .expression
  if ← atMark "," then
    let rest ← many do
      if ← atMark "," then
        let comma ← mark ","
        return some [comma, ← rules .expression]
      return none
    grow "sequence_expression" first rest.flatten
  else return first

end Preflight.Source.Grammar
