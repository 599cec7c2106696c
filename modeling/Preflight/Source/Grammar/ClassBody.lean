import Preflight.Source.Grammar.Parameter

/-!
# Classes

The head of a class, what it extends, and its members: methods, fields, signatures and blocks
that run once.

## Main definitions

* `classAfterMarks`: a class from its keyword on.
* `classBodyRule`: the rule `classBody`.

## Implementation notes

The marks before a method belong to the method in plain script and stand before it in the typed
dialects, so the first row of a marked method differs between them.
-/

namespace Preflight.Source.Grammar

variable (rules : Rules)

/-! ### Heads -/

/-- What a class extends, with type arguments. -/
def extended : Parser (List Node) := do
  let value ← role "value" (rules .callee)
  if ← atOpenAngle then return [value, ← role "type_arguments" (typeArguments rules)]
  return [value]

/-- What a class extends and implements. -/
def heritage : Parser (List Node) := do
  let hasTypes := (← dialect).hasTypes
  if hasTypes then
    let ext ← if ← atWord "extends" then
        (return [← construct "extends_clause" do
          let w ← word "extends"
          let first ← extended rules
          let rest ← many do
            if ← atMark "," then
              let comma ← mark ","
              return some (comma :: (← extended rules))
            return none
          return w :: first ++ rest.flatten])
      else pure []
    let impl ← if ← atWord "implements" then
        (return [← construct "implements_clause" do
          let w ← word "implements"
          return w :: (← commaSeparated (rules .type))])
      else pure []
    if ext.isEmpty && impl.isEmpty then return []
    let first := (ext ++ impl).headD default
    return [.mk "class_heritage" true none first.startRow (← rowAt (← get).stop) none (ext ++ impl)]
  else if ← atWord "extends" then
    return [← construct "class_heritage" do return [← word "extends", ← rules .callee]]
  else return []

/-- The name of a class stands here. -/
def atClassName : Parser Bool := do
  let t ← peek
  return (← atName) && !t.isWord "extends" && !t.isWord "implements"

/-- A class from its keyword on. -/
def classAfterMarks (nameRequired : Bool) : Parser (List Node) := do
  let w ← word "class"
  let name ← if ← atClassName then
      (return [← role "name" (if (← dialect).hasTypes then typeName else identifier)])
    else pure []
  require (!nameRequired || !name.isEmpty)
  let ts ← optionalTypeParameters rules
  let hs ← heritage rules
  return [w] ++ name ++ ts ++ hs ++ [← role "body" (rules .classBody)]

/-! ### Members -/

/-- The words that may stand before the name of a member. -/
def memberModifierWords (d : Dialect) : List String :=
  ["static", "async", "get", "set"] ++
    if d.hasTypes then
      ["public", "private", "protected", "override", "readonly", "declare", "abstract", "accessor"]
    else []

/-- The words before the name of a member. -/
def memberModifiers : Parser (List Node) := do
  modifiers (memberModifierWords (← dialect)) ["*"]

/-- What ends a field or a signature. -/
def endMember (operatorFits : Bool) : Parser (List Node) := do
  let close ← optionalOneOf (if (← dialect).hasTypes then [";", ","] else [";"])
  require (!close.isEmpty || (← atMark "\x7d") || (← mayEnd operatorFits))
  return close

/-- A block that runs once for the class. -/
def staticBlock : Parser Node :=
  construct "class_static_block" do
    return [← word "static", ← role "body" (rules .block)]

/-- A member after its marks: a method, a signature or a field. -/
def memberAfterMarks (marks : List Node) (start : Nat) : Parser (List Node) := do
  let hasTypes := (← dialect).hasTypes
  let inner := (← peek).start
  let ws ← memberModifiers
  let star ← optionalMark "*"
  let name ← role "name" (propertyName rules)
  let sign ← optionalOneOf (if hasTypes then ["?", "!"] else [])
  let lead := ws ++ star ++ [name] ++ sign
  if (← atMark "(") || (hasTypes && (← atOpenAngle)) then
    let sig ← callSignature rules
    if ← atMark "\x7b" then
      let body ← role "body" (rules .block)
      let last ← rowAt (← get).stop
      if hasTypes then
        return marks ++ [.mk "method_definition" true none (← rowAt inner) last none
          (lead ++ sig ++ [body])]
      return [.mk "method_definition" true none (← rowAt start) last none
        (marks ++ lead ++ sig ++ [body])]
    require hasTypes
    let kind := if ws.any (·.kind == "abstract") then "abstract_method_signature"
      else "method_signature"
    let n := Node.mk kind true none (← rowAt inner) (← rowAt (← get).stop) none (lead ++ sig)
    return marks ++ [n] ++ (← endMember false)
  else
    require (star.isEmpty && !ws.any fun w => ["async", "get", "set"].contains w.kind)
    let note ← optionalColonType rules
    let value ← outsideBrackets (initializer rules)
    let kind := if hasTypes then "public_field_definition" else "field_definition"
    let n := Node.mk kind true none (← rowAt start) (← rowAt (← get).stop) none
      (marks ++ lead ++ note ++ value)
    return n :: (← endMember (!value.isEmpty))

/-- A member of a class. -/
def classMember : Parser (List Node) := do
  if ← atMark ";" then return [← mark ";"]
  let start := (← peek).start
  let marks ← decorators rules
  if (← atWord "static") && (← peekSecond).isMark "\x7b" then return marks ++ [← staticBlock rules]
  if (← dialect).hasTypes then
    let signature ← attempt do
      let ws ← many do
        if (← atWord "static") || (← atWord "readonly") then
          return some (← leaf (← peek).text false)
        return none
      require (← atIndexSignature)
      return ws ++ [← indexSignature rules]
    if let some n := signature then return marks ++ n ++ (← endMember false)
  memberAfterMarks rules marks start

/-- The rule `classBody`: the members of a class in braces. -/
def classBodyRule : Parser Node :=
  construct "class_body" do
    let opening ← mark "\x7b"
    let members ← outsideBrackets (untilMark "\x7d" (classMember rules))
    return opening :: members ++ [← mark "\x7d"]

end Preflight.Source.Grammar
