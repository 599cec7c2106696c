import Preflight.Source.Grammar.Literal

/-!
# Types

The rules for types and for what carries them: annotations, lists of type parameters and
arguments, the members of object types, and the signature of a call. They apply to the typed
dialects only.

## Main definitions

* `typeRule`, `plainTypeRule`, `singleTypeRule`: the rules `type`, `plainType`, `singleType`.
* `typeArguments`, `typeParameters`: lists in angle brackets.
* `colonType`, `resultColon`: what follows a colon.
* `callSignature`: type parameters, parameters and result.
* `propertyName`: the name of a member, also of classes and objects.
-/

namespace Preflight.Source.Grammar

variable (rules : Rules)

/-! ### Angle brackets -/

/-- The next token starts with an opening angle bracket that may stand alone. -/
def atOpenAngle : Parser Bool := atOneOf ["<", "<<"]

/-- Take one opening angle bracket. -/
def openAngle : Parser Node := do
  require (← atOpenAngle)
  let t ← peek
  moveTo (t.start + 1)
  return .mk "<" false none (← rowAt t.start) (← rowAt t.start) (some "<") []

/-- The next token starts with a closing angle bracket. -/
def atCloseAngle : Parser Bool := do
  let t ← peek
  return t.form == .mark && t.text.startsWith ">"

/-- Take one closing angle bracket, also off the front of a longer mark. -/
def closeAngle : Parser Node := do
  require (← atCloseAngle)
  let t ← peek
  moveTo (t.start + 1)
  return .mk ">" false none (← rowAt t.start) (← rowAt t.start) (some ">") []

/-- One item or more in angle brackets. -/
def angleList (kind : String) (item : Parser Node) : Parser Node :=
  construct kind do
    let opening ← openAngle
    let items ← inBrackets <| many do
      if ← atCloseAngle then return none
      let n ← item
      if ← atCloseAngle then return some [n]
      return some [n, ← mark ","]
    require (!items.isEmpty)
    return opening :: items.flatten ++ [← closeAngle]

/-- Arguments for type parameters. -/
def typeArguments : Parser Node := angleList "type_arguments" (rules .type)

/-- A type parameter, with what it extends and what it is by default. -/
def typeParameter : Parser Node :=
  construct "type_parameter" do
    let const ← if (← atWord "const") && (← peekSecond).form == .word then
      (return [← word "const"]) else pure []
    let name ← role "name" typeName
    let bound ← if ← atWord "extends" then
        (return [← role "constraint" (construct "constraint" do
          return [← word "extends", ← rules .type])])
      else pure []
    let default ← if ← atMark "=" then
        (return [← role "value" (construct "default_type" do
          return [← mark "=", ← rules .type])])
      else pure []
    return const ++ [name] ++ bound ++ default

/-- Type parameters in angle brackets. -/
def typeParameters : Parser Node := angleList "type_parameters" (typeParameter rules)

/-- Type parameters, where the dialect has them and some stand here. -/
def optionalTypeParameters : Parser (List Node) := do
  if (← dialect).hasTypes && (← atOpenAngle) then
    return [← role "type_parameters" (typeParameters rules)]
  else return []

/-! ### Annotations -/

/-- A colon and a type. -/
def colonType : Parser Node :=
  construct "type_annotation" do
    return [← mark ":", ← rules .type]

/-- An colonType, where the dialect has them and one stands here. -/
def optionalColonType : Parser (List Node) := do
  if (← dialect).hasTypes && (← atMark ":") then
    return [← role "type" (colonType rules)]
  else return []

/-- A statement about a parameter in place of a result type. -/
def typePredicate : Parser Node :=
  construct "type_predicate" do
    let name ← role "name" (leaf "identifier" true)
    require (!(← lineEndsHere))
    return [name, ← word "is", ← role "type" (rules .type)]

/-- A word is followed by `is` on the same line. -/
def atPredicate : Parser Bool := do
  let t ← peek
  return t.form == .word && (← peekSecond).isWord "is" &&
    !(gapFrom (← read).chars t.stop {}).line

/-- A result: a type, a predicate or an assertion. -/
def resultType : Parser Node := do
  if (← atWord "asserts") && (← peekSecond).form == .word && !(← peekSecond).isWord "is" then
    construct "asserts" do
      let w ← word "asserts"
      if ← atPredicate then return [w, ← typePredicate rules]
      return [w, ← leaf "identifier" true]
  else if ← atPredicate then typePredicate rules
  else rules .type

/-- A colon and a result. -/
def resultColon : Parser Node :=
  construct "type_annotation" do
    return [← mark ":", ← resultType rules]

/-- A result colonType, where the dialect has them and one stands here. -/
def optionalResult : Parser (List Node) := do
  if (← dialect).hasTypes && (← atMark ":") then
    return [← role "return_type" (resultColon rules)]
  else return []

/-- Type parameters, parameters and the result of something that is called. -/
def callSignature : Parser (List Node) := do
  let ts ← optionalTypeParameters rules
  let ps ← role "parameters" (rules .parameters)
  return ts ++ [ps] ++ (← optionalResult rules)

/-! ### Names of members -/

/-- The name of a member: a word, a private name, a string, a number or a computed name. -/
def propertyName : Parser Node := keepText do
  let t ← peek
  match t.form with
  | .word => memberName
  | .privateName => leaf "private_property_identifier" true
  | .string => leaf "string" true
  | .number => leaf "number" true
  | _ => construct "computed_property_name" do
      let opening ← mark "["
      let e ← inBrackets (rules .expression)
      return [opening, e, ← mark "]"]

/-- The token may be the first of a member's name. -/
def startsPropertyName (t : Token) : Bool :=
  t.form == .word || t.form == .privateName || t.form == .string || t.form == .number ||
    t.isMark "["

/-- A word stands here as a modifier: what follows it can go on to name a member. -/
def atModifier (ws : List String) (more : List String) : Parser Bool := do
  let t ← peek
  let s ← peekSecond
  return t.form == .word && ws.contains t.text &&
    (startsPropertyName s || (s.form == .mark && more.contains s.text))

/-- The modifiers of a member, taken as long as what follows can go on to name one. -/
def modifiers (ws : List String) (more : List String) : Parser (List Node) :=
  many do
    if ← atModifier ws more then
      let t ← peek
      return some (← leaf t.text false)
    return none

/-! ### Object types -/

/-- The mark or marks between the brackets of an index and its type. -/
def mappedColon : Parser Node := do
  if ← atOneOf ["-", "+"] then
    construct "type_annotation" do
      let sign ← optionalOneOf ["-", "+"]
      return sign ++ [← mark "?", ← mark ":", ← rules .type]
  else if ← atMark "?" then
    construct "type_annotation" do
      return [← mark "?", ← mark ":", ← rules .type]
  else colonType rules

/-- An index signature: a named index with its type, or a range of names. -/
def indexSignature : Parser Node :=
  construct "index_signature" do
    let sign ← optionalOneOf ["-", "+"]
    let readonly ← optionalWord "readonly"
    let opening ← mark "["
    let index ← inBrackets do
      let name ← role "name" (leaf "identifier" true)
      if ← atMark ":" then
        return [name, ← mark ":", ← role "index_type" (rules .type)]
      let w ← word "in"
      let range ← rules .type
      let renamed ← if ← atWord "as" then
          (return [← word "as", ← role "alias" (rules .type)]) else pure []
      return [name, w, range] ++ renamed
    let closing ← mark "]"
    return sign ++ readonly ++ [opening] ++ index ++
      [closing, ← role "type" (mappedColon rules)]

/-- An index signature stands at the bracket at a position. -/
def indexAt (cs : Chars) (i : Nat) : Bool :=
  let name := tokenAt cs i
  let next := tokenAt cs name.stop
  name.form == .word && (next.isMark ":" || next.isWord "in")

/-- A member of an object type is an index signature. -/
def atIndexSignature : Parser Bool := do
  let cs := (← read).chars
  let t ← peek
  if t.isMark "[" then return indexAt cs t.stop
  let t := if t.isMark "-" || t.isMark "+" then tokenAt cs t.stop else t
  if t.isWord "readonly" then
    let b := tokenAt cs t.stop
    return b.isMark "[" && indexAt cs b.stop
  return false

/-- A member of an object type. -/
def typeMember : Parser Node := do
  if ← atIndexSignature then indexSignature rules
  else if (← atMark "(") || (← atOpenAngle) then
    construct "call_signature" (callSignature rules)
  else if ((← atWord "new") && ((← peekSecond).isMark "(" || (← peekSecond).isMark "<")) ||
      ((← atWord "abstract") && (← peekSecond).isWord "new") then
    construct "construct_signature" do
      let abs ← optionalWord "abstract"
      let w ← word "new"
      return abs ++ [w] ++ (← callSignature rules)
  else
    let start := (← peek).start
    let ms ← modifiers ["public", "private", "protected", "static", "override", "readonly"] []
    let kinds ← modifiers ["get", "set", "async"] ["*"]
    let star ← optionalMark "*"
    let name ← role "name" (propertyName rules)
    let optional ← optionalMark "?"
    if (← atMark "(") || (← atOpenAngle) then
      let sig ← callSignature rules
      return .mk "method_signature" true none (← rowAt start) (← rowAt (← get).stop) none
        (ms ++ kinds ++ star ++ [name] ++ optional ++ sig)
    else
      require star.isEmpty
      let note ← optionalColonType rules
      return .mk "property_signature" true none (← rowAt start) (← rowAt (← get).stop) none
        (ms ++ kinds ++ [name] ++ optional ++ note)

/-- The members of an object type in braces. -/
def objectType (kind : String) : Parser Node :=
  construct kind do
    let opening ← mark "\x7b"
    let lead ← optionalOneOf [",", ";"]
    let members ← outsideBrackets <| untilMark "\x7d" do
      let m ← typeMember rules
      let close ← optionalOneOf [",", ";"]
      require (!close.isEmpty || (← atMark "\x7d") || (← mayEnd false))
      return m :: close
    return opening :: lead ++ members ++ [← mark "\x7d"]

/-! ### Types -/

/-- The words that are types of their own. -/
def predefinedTypes : List String :=
  ["any", "number", "boolean", "string", "symbol", "void", "unknown", "never", "object"]

/-- A name of names, parted by points. -/
def qualified (kind : String) (first : Node) : Parser Node := do
  let rest ← many do
    if ← atMark "." then
      let point ← mark "."
      return some [point, ← role "name" (leaf "type_identifier" true)]
    return none
  if rest.isEmpty then return first
  grow kind (first.withRole "module") rest.flatten

/-- The value a type is asked of: a name with members, an import, or an indexed one. -/
def queried : Parser Node := do
  let head ←
    if ← atWord "import" then
      construct "call_expression" do
        let f ← role "function" (construct "import" do return [← word "import"])
        let args ← role "arguments" (construct "arguments" do
          let opening ← mark "("
          let e ← inBrackets (rules .expression)
          let more ← if ← atMark "," then
            (return [← mark ",", ← inBrackets (rules .expression)]) else pure []
          return [opening, e] ++ more ++ [← mark ")"])
        return [f, args]
    else leaf "identifier" true
  let links ← many do
    if ← atOneOf [".", "?."] then
      let point ← leaf "." false
      require ((← peek).form == .word || (← peek).form == .privateName)
      return some [point, ← leaf "property_identifier" true]
    if (← atMark "[") && (← sameLine) then
      let opening ← mark "["
      if ← atMark "]" then return some [opening, ← mark "]"]
      let index ← inBrackets (rules .type)
      return some [opening, index, ← mark "]"]
    return none
  let args ← if (← atOpenAngle) && (← sameLine) then
    (return [← role "type_arguments" (typeArguments rules)]) else pure []
  if links.isEmpty && args.isEmpty then return head
  grow "member_expression" head (links.flatten ++ args)

/-- A member of a tuple type: a type, a named one, an optional one, or the rest. -/
def tupleMember : Parser Node := do
  let cs := (← read).chars
  let t ← peek
  let s ← peekSecond
  let named := t.form == .word &&
    (s.isMark ":" || (s.isMark "?" && (tokenAt cs s.stop).isMark ":"))
  if named then
    construct (if s.isMark ":" then "required_parameter" else "optional_parameter") do
      let name ← role "name" (leaf "identifier" true)
      let optional ← optionalMark "?"
      return [name] ++ optional ++ [← role "type" (colonType rules)]
  else if t.isMark "..." then
    if s.form == .word && (tokenAt cs s.stop).isMark ":" then
      construct "required_parameter" do
        let rest ← role "name" (keepText (construct "rest_pattern" do
          return [← mark "...", ← leaf "identifier" true]))
        return [rest, ← role "type" (colonType rules)]
    else construct "rest_type" do
      return [← mark "...", ← rules .type]
  else
    let ty ← rules .type
    if ← atMark "?" then grow "optional_type" ty [← mark "?"] else return ty

/-- The parameters of a function type, up to its arrow. -/
def functionTypeHead (kind : String) (lead : Parser (List Node)) : Parser Node :=
  construct kind do
    let ws ← lead
    let ts ← optionalTypeParameters rules
    let ps ← role "parameters" (rules .parameters)
    let arrow ← mark "=>"
    return ws ++ ts ++ [ps, arrow, ← role "return_type" (resultType rules)]

/-- A parenthesis opens the parameters of a function type. -/
def atFunctionType : Parser Bool := do
  let cs := (← read).chars
  let t ← peek
  if !t.isMark "(" then return false
  let s := tokenAt cs t.stop
  if s.isMark ")" then return (tokenAt cs s.stop).isMark "=>"
  if s.isMark "..." || s.isMark "@" then return true
  if s.form == .word then
    let u := tokenAt cs s.stop
    if u.isMark ":" || u.isMark "," || u.isMark "?" || u.isMark "=" || u.form == .word then
      return true
    return u.isMark ")" && (tokenAt cs u.stop).isMark "=>"
  return s.isMark "\x7b" || s.isMark "["

/-- A type before its suffixes. -/
def primaryType : Parser Node := do
  let t ← peek
  match t.form with
  | .string | .number => construct "literal_type" do
      return [← leaf (if t.form == .string then "string" else "number") true]
  | .template => template "template_literal_type" "template_type" (rules .type)
  | .mark =>
    if t.text == "\x7b" then objectType rules "object_type"
    else if t.text == "[" then construct "tuple_type" do
      let opening ← mark "["
      let ms ← inBrackets (commaList "]" false (tupleMember rules))
      return opening :: ms ++ [← mark "]"]
    else if t.text == "(" then construct "parenthesized_type" do
      let opening ← mark "("
      let inner ← inBrackets (rules .type)
      return [opening, inner, ← mark ")"]
    else if t.text == "-" then construct "literal_type" do
      let sign ← mark "-"
      require ((← peek).form == .number)
      return [sign, ← leaf "number" true]
    else if t.text == "?" then construct "flow_maybe_type" do
      return [← mark "?", ← rules .plainType]
    else if t.text == "*" then construct "existential_type" do return [← mark "*"]
    else failure
  | .word =>
    if t.text == "typeof" then construct "type_query" do
      return [← word "typeof", ← queried rules]
    else if t.text == "import" then queried rules
    else if t.text == "unique" && (← peekSecond).isWord "symbol" then
      construct "predefined_type" do return [← word "unique", ← word "symbol"]
    else if ["true", "false", "null", "undefined"].contains t.text then
      construct "literal_type" do return [← leaf t.text true]
    else if t.text == "this" then leaf "this_type" true
    else if predefinedTypes.contains t.text && !(← peekSecond).isMark "." then
      construct "predefined_type" do return [← leaf t.text false]
    else
      require (t.text != "new" && t.text != "function" && t.text != "class")
      let name ← qualified "nested_type_identifier" (← typeName)
      if (← atOpenAngle) && (← sameLine) then
        grow "generic_type" (name.withRole "name")
          [← role "type_arguments" (typeArguments rules)]
      else return name
  | _ => failure

/-- The suffixes of a type: arrays and look-ups. -/
def suffixedTypeFrom : Nat → Node → Parser Node
  | 0, ty => return ty
  | n + 1, ty => do
    if (← atMark "[") && (← sameLine) then
      let opening ← mark "["
      if ← atMark "]" then
        suffixedTypeFrom n (← grow "array_type" ty [opening, ← mark "]"])
      else
        let index ← inBrackets (rules .type)
        suffixedTypeFrom n (← grow "lookup_type" ty [opening, index, ← mark "]"])
    else return ty

/-- A type with its suffixes. -/
def suffixedType : Parser Node := do
  suffixedTypeFrom rules (← read).chars.size (← primaryType rules)

/-- The name of an inferred type, with its bound. -/
def inferredType : Parser Node :=
  construct "infer_type" do
    let w ← word "infer"
    let name ← typeName
    if ← atWord "extends" then return [w, name, ← word "extends", ← rules .type]
    return [w, name]

/-- The rule `singleType`: a type with the operators that stand before it. -/
def singleTypeRule : Parser Node := do
  let t ← peek
  let s ← peekSecond
  let goesOn := s.form == .word || s.form == .string || s.form == .number || s.form == .template ||
    s.isMark "(" || s.isMark "[" || s.isMark "\x7b" || s.isMark "-"
  if t.isMark "(" then
    if ← atFunctionType then
      match ← attempt (functionTypeHead rules "function_type" (pure [])) with
      | some f => return f
      | none => suffixedType rules
    else suffixedType rules
  else if t.isMark "<" then functionTypeHead rules "function_type" (pure [])
  else if t.isWord "new" then
    functionTypeHead rules "constructor_type" do return [← word "new"]
  else if t.isWord "abstract" && s.isWord "new" then
    functionTypeHead rules "constructor_type" do return [← word "abstract", ← word "new"]
  else if t.isWord "keyof" && goesOn then construct "index_type_query" do
    return [← word "keyof", ← rules .singleType]
  else if t.isWord "readonly" && goesOn then construct "readonly_type" do
    return [← word "readonly", ← rules .singleType]
  else if t.isWord "infer" && s.form == .word && !s.isWord "extends" then inferredType rules
  else suffixedType rules

/-- Types combined by one operator, as far as they go. -/
def combinedFrom (m kind : String) (operand : Parser Node) : Nat → Node → Parser Node
  | 0, ty => return ty
  | n + 1, ty => do
    if ← atMark m then
      let op ← mark m
      combinedFrom m kind operand n (← grow kind ty [op, ← operand])
    else return ty

/-- Types combined by an operator, which may also stand before the first. -/
def combined (m kind : String) (operand : Parser Node) : Parser Node := do
  let n := (← read).chars.size
  if ← atMark m then
    let first ← construct kind do return [← mark m, ← operand]
    combinedFrom m kind operand n first
  else combinedFrom m kind operand n (← operand)

/-- The rule `plainType`: alternatives of types that hold together. -/
def plainTypeRule : Parser Node :=
  combined "|" "union_type" (combined "&" "intersection_type" (rules .singleType))

/-- The rule `type`: a type, or a choice that depends on what a type extends. -/
def typeRule : Parser Node := do
  let ty ← rules .plainType
  if (← atWord "extends") && (← sameLine) then
    let w ← word "extends"
    let bound ← role "right" (rules .plainType)
    let q ← mark "?"
    let yes ← role "consequence" (rules .type)
    let c ← mark ":"
    grow "conditional_type" (ty.withRole "left")
      [w, bound, q, yes, c, ← role "alternative" (rules .type)]
  else return ty

end Preflight.Source.Grammar
