import Preflight.Source.Grammar.TypeExpr

/-!
# Arguments, patterns and parameters

What a call passes and what a function takes: arguments, patterns that take a value apart, and
parameters with their marks.

## Main definitions

* `arguments`, `decorator`: what a call passes, and a call that marks a declaration.
* `bindingRule`, `targetRule`, `parametersRule`: the rules `binding`, `target`, `parameters`.
-/

namespace Preflight.Source.Grammar

variable (rules : Rules)

/-- Three points and what they spread. -/
def spread : Parser Node :=
  construct "spread_element" do
    return [← mark "...", ← rules .expression]

/-- An expression, or a spread one. -/
def element : Parser Node := do
  if ← atMark "..." then spread rules else rules .expression

/-- Arguments in parentheses. -/
def arguments : Parser Node :=
  construct "arguments" do
    let opening ← mark "("
    let items ← inBrackets (commaList ")" true (element rules))
    return opening :: items ++ [← mark ")"]

/-- A name and its members, with the arguments that follow, as the head of a decorator. -/
def decoratorCall : Parser Node := do
  let head ← identifier
  let links ← many do
    if ← atMark "." then
      let point ← mark "."
      return some [point, ← role "property" memberName]
    return none
  let callee ← if links.isEmpty then pure head
    else grow "member_expression" (head.withRole "object") links.flatten
  let args ← if (← dialect).hasTypes && (← atOpenAngle) then
    (return [← role "type_arguments" (typeArguments rules)]) else pure []
  if (← atMark "(") && (← sameLine) then
    grow "call_expression" (callee.withRole "function")
      (args ++ [← role "arguments" (arguments rules)])
  else
    require args.isEmpty
    return callee

/-- A mark on a declaration. -/
def decorator : Parser Node :=
  construct "decorator" do
    let sign ← mark "@"
    if ← atMark "(" then
      return [sign, ← construct "parenthesized_expression" do
        let opening ← mark "("
        let e ← inBrackets (rules .expressions)
        return [opening, e, ← mark ")"]]
    return [sign, ← decoratorCall rules]

/-- The marks before a declaration. -/
def decorators : Parser (List Node) :=
  many do
    if ← atMark "@" then return some (← role "decorator" (decorator rules)) else return none

/-! ### Patterns -/

/-- An equals sign and a value. -/
def initializer : Parser (List Node) := do
  if ← atMark "=" then
    return [← mark "=", ← role "value" (rules .expression)]
  else return []

/-- A pattern, with a value it takes by default. -/
def defaulted (kind : String) (p : Parser Node) : Parser Node := do
  let n ← p
  if ← atMark "=" then
    let eq ← mark "="
    grow kind (n.withRole "left") [eq, ← role "right" (rules .expression)]
  else return n

/-- Three points and what takes the rest. -/
def restPattern : Parser Node :=
  construct "rest_pattern" do
    return [← mark "...", ← rules .target]

/-- A pattern for the members of a sequence. -/
def arrayPattern : Parser Node :=
  construct "array_pattern" do
    let opening ← mark "["
    let items ← inBrackets <| commaList "]" true do
      if ← atMark "..." then restPattern rules
      else defaulted rules "assignment_pattern" (rules .target)
    return opening :: items ++ [← mark "]"]

/-- A pattern for one member of an object. -/
def memberPattern : Parser Node := do
  if ← atMark "..." then restPattern rules
  else
    let s ← peekSecond
    if (← peek).form == .word && !s.isMark ":" then
      defaulted rules "object_assignment_pattern" do
        require (← atName)
        leaf "shorthand_property_identifier_pattern" true
    else
      construct "pair_pattern" do
        let key ← role "key" (propertyName rules)
        let colon ← mark ":"
        return [key, colon,
          ← role "value" (defaulted rules "assignment_pattern" (rules .target))]

/-- A pattern for the members of an object. -/
def objectPattern : Parser Node :=
  construct "object_pattern" do
    let opening ← mark "\x7b"
    let items ← inBrackets (commaList "\x7d" true (memberPattern rules))
    return opening :: items ++ [← mark "\x7d"]

/-- The rule `binding`: a name or a pattern, as a declaration introduces it. -/
def bindingRule : Parser Node := do
  if ← atMark "[" then arrayPattern rules
  else if ← atMark "\x7b" then objectPattern rules
  else identifier

/-- The members of a name that is assigned to, as far as they go. -/
def memberTargetFrom : Nat → Node → Parser Node
  | 0, n => return n
  | k + 1, n => do
    if ← atMark "." then
      let point ← mark "."
      let name ← if (← peek).form == .privateName then
          leaf "private_property_identifier" true else memberName
      memberTargetFrom k (← grow "member_expression" (n.withRole "object")
        [point, name.withRole "property"])
    else if ← atMark "[" then
      let opening ← mark "["
      let index ← role "index" (inBrackets (rules .expressions))
      memberTargetFrom k (← grow "subscript_expression" (n.withRole "object")
        [opening, index, ← mark "]"])
    else return n

/-- The rule `target`: what a pattern may assign to. -/
def targetRule : Parser Node := do
  if ← atMark "[" then arrayPattern rules
  else if ← atMark "\x7b" then objectPattern rules
  else
    let head ← if (← atWord "this") || (← atWord "super") then
        leaf (← peek).text true else identifier
    let n ← memberTargetFrom rules (← read).chars.size head
    require (n.kind != "this" && n.kind != "super")
    return n

/-! ### Parameters -/

/-- The words that may stand before a parameter of a constructor. -/
def parameterModifiers : Parser (List Node) :=
  many do
    let t ← peek
    let s ← peekSecond
    let goesOn := s.form == .word || s.isMark "[" || s.isMark "\x7b" || s.isMark "..."
    if t.form == .word && goesOn &&
        ["public", "private", "protected", "override", "readonly"].contains t.text then
      return some (← leaf t.text false)
    return none

/-- A parameter of the typed dialects. -/
def typedParameter : Parser Node := do
  let start := (← peek).start
  let marks ← decorators rules
  let ws ← parameterModifiers
  let p ← role "pattern" do
    if ← atMark "..." then restPattern rules
    else if ← atWord "this" then leaf "this" true
    else rules .target
  let optional ← optionalMark "?"
  let note ← optionalColonType rules
  let value ← initializer rules
  let kind := if optional.isEmpty then "required_parameter" else "optional_parameter"
  return .mk kind true none (← rowAt start) (← rowAt (← get).stop) none
    (marks ++ ws ++ [p] ++ optional ++ note ++ value)

/-- A parameter of plain script. -/
def plainParameter : Parser Node := do
  if ← atMark "..." then restPattern rules
  else defaulted rules "assignment_pattern" (rules .target)

/-- The rule `parameters`: the parameters of a function in parentheses. -/
def parametersRule : Parser Node :=
  construct "formal_parameters" do
    let opening ← mark "("
    let item := if (← dialect).hasTypes then typedParameter rules else plainParameter rules
    let items ← inBrackets (commaList ")" false item)
    return opening :: items ++ [← mark ")"]

end Preflight.Source.Grammar
