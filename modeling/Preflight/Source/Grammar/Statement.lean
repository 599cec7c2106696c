import Preflight.Source.Grammar.Expression

/-!
# Statements and declarations

The rules for statements, for the declarations of plain script and of the typed dialects, and
for what a file takes in and gives out.

## Main definitions

* `blockRule`, `statementRule`: the rules `block` and `statement`.
-/

namespace Preflight.Source.Grammar

variable (rules : Rules)

/-! ### Variables -/

/-- One declared variable with its type and value. -/
def declarator : Parser Node :=
  construct "variable_declarator" do
    let name ← role "name" (rules .binding)
    let sure ← if (← dialect).hasTypes && (← atMark "!") then (return [← mark "!"]) else pure []
    let note ← optionalColonType rules
    return [name] ++ sure ++ note ++ (← initializer rules)

/-- The kind of node a keyword of variables opens, and whether the keyword has a role. -/
def variableKind (keyword : String) : String :=
  if keyword == "var" then "variable_declaration"
  else if keyword == "using" || keyword == "await" then "using_declaration"
  else "lexical_declaration"

/-- The keyword of a declaration of variables. -/
def variableKeyword : Parser (List Node) := do
  let t ← peek
  let w ← leaf t.text false
  if t.text == "var" then return [w]
  if t.text == "await" then return [w.withRole "kind", (← word "using").withRole "kind"]
  return [w.withRole "kind"]

/-- Variables from their keyword on, up to the end of the declaration. -/
def variableList (finish : Parser (List Node)) : Parser Node := do
  let kind := variableKind (← peek).text
  construct kind do
    let w ← variableKeyword
    let ds ← commaSeparated (declarator rules)
    return w ++ ds ++ (← finish)

/-- A token starts the name of a variable after a word that may also be a name itself. -/
def isDeclaredName (t : Token) : Bool :=
  t.form == .word && !(["in", "instanceof", "of"].contains t.text)

/-- The next tokens declare variables that are given up at the end of their block, in plain
script: `using` may also be a name. -/
def atUsing : Parser Bool := do
  if (← dialect).hasTypes then return false
  let t ← peek
  let s ← peekSecond
  if t.isWord "using" then return isDeclaredName s
  return t.isWord "await" && s.isWord "using" && isDeclaredName (tokenAt (← read).chars s.stop)

/-- The next tokens declare variables: `let` may also be a name. -/
def atVariables : Parser Bool := do
  if ← atUsing then return true
  let t ← peek
  let s ← peekSecond
  if t.isWord "var" then return true
  if t.isWord "const" then return !(s.isWord "enum" && (← dialect).hasTypes)
  return t.isWord "let" &&
    ((s.form == .word && !(["in", "instanceof"].contains s.text)) || s.isMark "[" ||
      s.isMark "\x7b")

/-! ### Control -/

/-- Expressions in parentheses that decide what happens next. -/
def condition : Parser Node := role "condition" (parenthesized rules)

/-- The head of a loop over the members of a value, in its parentheses. -/
def memberLoopHead : Parser (List Node) := do
  let opening ← mark "("
  let left ← inBrackets do
    if ← atVariables then
      let w ← variableKeyword
      let name ← role "left" (rules .binding)
      let value ← if ← atMark "=" then
          (return [← mark "=", ← role "value" (rules .operand)]) else pure []
      return w ++ [name] ++ value
    else
      let n ← if (← atMark "[") || (← atMark "\x7b") then rules .target else rules .callee
      return [n.withRole "left"]
  require ((← atWord "of") || (← atWord "in"))
  let op ← role "operator" (leaf (← peek).text false)
  let right ← role "right" (inBrackets (rules .expressions))
  return [opening] ++ left ++ [op, right, ← mark ")"]

/-- The head of a counting loop, in its parentheses. -/
def countingLoopHead : Parser (List Node) := do
  let opening ← mark "("
  inBrackets do
    let first ←
      if ← atMark ";" then
        (return [← role "initializer" (construct "empty_statement" do return [← mark ";"])])
      else if ← atVariables then
        (return [← role "initializer" (variableList rules (return [← mark ";"]))])
      else (return [← role "initializer" (rules .expressions), ← mark ";"])
    let second ←
      if ← atMark ";" then
        (return [← role "condition" (construct "empty_statement" do return [← mark ";"])])
      else (return [← role "condition" (rules .expressions), ← mark ";"])
    let third ← if ← atMark ")" then pure [] else
      (return [← role "increment" (rules .expressions)])
    return [opening] ++ first ++ second ++ third ++ [← mark ")"]

/-- A loop that starts with `for`. -/
def forStatement : Parser Node := do
  let start := (← peek).start
  let w ← word "for"
  let awaiting ← optionalWord "await"
  let (kind, head) ← match ← attempt (memberLoopHead rules) with
    | some head => pure ("for_in_statement", head)
    | none => require awaiting.isEmpty; pure ("for_statement", ← countingLoopHead rules)
  let body ← role "body" (rules .statement)
  return .mk kind true none (← rowAt start) (← rowAt (← get).stop) none
    ([w] ++ awaiting ++ head ++ [body])

/-- A choice between statements. -/
def ifStatement : Parser Node :=
  construct "if_statement" do
    let w ← word "if"
    let c ← condition rules
    let yes ← role "consequence" (rules .statement)
    if ← atWord "else" then
      let no ← construct "else_clause" do return [← word "else", ← rules .statement]
      return [w, c, yes, no.withRole "alternative"]
    return [w, c, yes]

/-- One case of a choice by value. -/
def switchCase : Parser Node := do
  let statements : Parser (List Node) := many do
    if (← atWord "case") || (← atMark "\x7d") ||
        ((← atWord "default") && (← peekSecond).isMark ":") then return none
    return some (← role "body" (rules .statement))
  if ← atWord "case" then
    construct "switch_case" do
      let w ← word "case"
      let v ← role "value" (inBrackets (rules .expressions))
      return [w, v, ← mark ":"] ++ (← statements)
  else
    construct "switch_default" do
      return [← word "default", ← mark ":"] ++ (← statements)

/-- A choice by value. -/
def switchStatement : Parser Node :=
  construct "switch_statement" do
    let w ← word "switch"
    let v ← role "value" (parenthesized rules)
    let body ← construct "switch_body" do
      let opening ← mark "\x7b"
      let cases ← outsideBrackets (untilMark "\x7d" do return [← switchCase rules])
      return opening :: cases ++ [← mark "\x7d"]
    return [w, v, body.withRole "body"]

/-- What catches a failure. -/
def catchClause : Parser Node :=
  construct "catch_clause" do
    let w ← word "catch"
    let p ← if ← atMark "(" then do
        let opening ← mark "("
        let name ← role "parameter" (inBrackets (rules .binding))
        let note ← optionalColonType rules
        pure ([opening, name] ++ note ++ [← mark ")"])
      else pure []
    return [w] ++ p ++ [← role "body" (rules .block)]

/-- A block with what catches its failures and what follows in any case. -/
def tryStatement : Parser Node :=
  construct "try_statement" do
    let w ← word "try"
    let body ← role "body" (rules .block)
    let caught ← if ← atWord "catch" then (return [← role "handler" (catchClause rules)])
      else pure []
    let last ← if ← atWord "finally" then
        (return [← role "finalizer" (construct "finally_clause" do
          return [← word "finally", ← role "body" (rules .block)])])
      else pure []
    return [w, body] ++ caught ++ last

/-- A jump, with a label on the same line. -/
def jump (kind keyword : String) : Parser Node :=
  construct kind do
    let w ← word keyword
    if ← mayEnd false then return [w]
    if ← atMark ";" then return [w, ← mark ";"]
    let l ← role "label" (leaf "statement_identifier" true)
    return [w, l] ++ (← endStatement)

/-- A statement that gives a value back. -/
def returnStatement : Parser Node :=
  construct "return_statement" do
    let w ← word "return"
    if ← mayEnd false then return [w]
    if ← atMark ";" then return [w, ← mark ";"]
    let e ← rules .expressions
    return [w, e] ++ (← endStatement)

/-- A loop with its condition at the end. -/
def doStatement : Parser Node :=
  construct "do_statement" do
    let w ← word "do"
    let body ← role "body" (rules .statement)
    let loop ← word "while"
    let c ← condition rules
    return [w, body, loop, c] ++ (← optionalMark ";")

/-- An expression as a statement. -/
def expressionStatement : Parser Node :=
  construct "expression_statement" do
    let e ← rules .expressions
    return e :: (← endStatement)

/-! ### Modules -/

/-- The name of something given out or taken in. -/
def exchangedName : Parser Node := do
  if (← peek).form == .string then stringLiteral else leaf "identifier" true

/-- A name that stands in for an exchanged one. -/
def newName : Parser (List Node) := do
  if ← atWord "as" then return [← word "as", ← role "alias" exchangedName] else return []

/-- The word that marks an exchanged type, if one stands here. -/
def typeMark : Parser (List Node) := do
  let t ← peek
  let s ← peekSecond
  if (← dialect).hasTypes && (t.isWord "type" || t.isWord "typeof") &&
      ((s.form == .word && !s.isWord "as") || s.form == .string ||
        (s.isWord "as" && (tokenAt (← read).chars s.stop).form == .word)) then
    return [← leaf t.text false]
  else return []

/-- One exchanged name. -/
def specifier (kind : String) : Parser Node :=
  construct kind do
    let ty ← typeMark
    require ((← peek).form == .word || (← peek).form == .string)
    let name ← role "name" exchangedName
    return ty ++ [name] ++ (← newName)

/-- Exchanged names in braces. -/
def specifiers (kind itemKind : String) : Parser Node :=
  construct kind do
    let opening ← mark "\x7b"
    let items ← inBrackets (commaList "\x7d" false (specifier itemKind))
    return opening :: items ++ [← mark "\x7d"]

/-- The file something comes from. -/
def source : Parser (List Node) := do
  return [← word "from", ← role "source" stringLiteral]

/-- What is asked of the file something comes from. -/
def importAttribute : Parser (List Node) := do
  if (← atWord "with") || ((← dialect).hasTypes && (← atWord "assert")) then
    return [← construct "import_attribute" do
      let w ← leaf (← peek).text false
      return [w, ← object rules]]
  else return []

/-- All of a file under one name. -/
def namespaceImport : Parser Node :=
  construct "namespace_import" do
    return [← mark "*", ← word "as", ← identifier]

/-- What is taken in. -/
def importClause : Parser Node :=
  construct "import_clause" do
    if ← atMark "*" then return [← namespaceImport]
    if ← atMark "\x7b" then return [← specifiers "named_imports" "import_specifier"]
    let name ← identifier
    if ← atMark "," then
      let comma ← mark ","
      if ← atMark "*" then return [name, comma, ← namespaceImport]
      return [name, comma, ← specifiers "named_imports" "import_specifier"]
    return [name]

/-- Names parted by points. -/
def dottedName : Parser Node := do
  let first ← identifier
  let rest ← many do
    if ← atMark "." then
      let point ← mark "."
      return some [point, ← role "property" memberName]
    return none
  if rest.isEmpty then return first
  grow "nested_identifier" (first.withRole "object") rest.flatten

/-- A name for something taken in by another way than a clause. -/
def importEquals : Parser (List Node) := do
  let name ← identifier
  let eq ← mark "="
  if (← atWord "require") && (← peekSecond).isMark "(" then
    let w ← word "require"
    let opening ← mark "("
    let s ← role "source" stringLiteral
    return [name, eq, w, opening, s, ← mark ")"]
  return [name, eq, ← dottedName]

/-- A statement that takes something in. -/
def importStatement : Parser Node :=
  construct "import_statement" do
    let w ← word "import"
    if (← peek).form == .string then
      let s ← role "source" stringLiteral
      let attrs ← importAttribute rules
      return [w, s] ++ attrs ++ (← endStatement)
    let typed := (← dialect).hasTypes
    let t ← peek
    let s ← peekSecond
    let ty ← if typed && (t.isWord "type" || t.isWord "typeof") &&
        ((s.form == .word && !s.isWord "from") || s.isMark "\x7b" || s.isMark "*" ||
          (s.isWord "from" && (tokenAt (← read).chars s.stop).isWord "from")) then
        (return [← leaf t.text false]) else pure []
    if typed && (← atName) && (← peekSecond).isMark "=" then
      let rest ← importEquals
      return [w] ++ ty ++ rest ++ (← endStatement)
    let clause ← importClause
    let from' ← source
    let attrs ← importAttribute rules
    return [w] ++ ty ++ [clause] ++ from' ++ attrs ++ (← endStatement)

/-- The value a file gives out by default, or its declaration. -/
def exportedDefault (declaration? : Parser (Option Node)) : Parser (List Node) := do
  let w ← word "default"
  match ← declaration? with
  | some d => return [w, d.withRole "declaration"]
  | none =>
    let v ← role "value" (rules .expression)
    return [w, v] ++ (← endStatement)

/-- What a file gives out, after the word that says so. -/
def exported (declaration? : Parser (Option Node)) : Parser (List Node) := do
  let typed := (← dialect).hasTypes
  if ← atMark "*" then
    let star ← mark "*"
    let name ← if ← atWord "as" then
        (return [← word "as", ← exchangedName]) else pure []
    let first ← if name.isEmpty then pure [star] else
      (return [.mk "namespace_export" true none star.startRow star.endRow none (star :: name)])
    let from' ← source
    let attrs ← importAttribute rules
    return first ++ from' ++ attrs ++ (← endStatement)
  if ← atMark "\x7b" then
    let clause ← specifiers "export_clause" "export_specifier"
    let from' ← if ← atWord "from" then source else pure []
    let attrs ← if from'.isEmpty then pure [] else importAttribute rules
    return [clause] ++ from' ++ attrs ++ (← endStatement)
  if typed && (← atMark "=") then
    let eq ← mark "="
    let e ← rules .expression
    return [eq, e] ++ (← endStatement)
  if typed && (← atWord "as") && (← peekSecond).isWord "namespace" then
    let w ← word "as"
    let n ← word "namespace"
    let name ← identifier
    return [w, n, name] ++ (← endStatement)
  if typed && (← atWord "type") &&
      ((← peekSecond).isMark "\x7b" || (← peekSecond).isMark "*") then
    let w ← word "type"
    if ← atMark "*" then
      let star ← mark "*"
      let name ← newName
      return [w, star] ++ name ++ (← source) ++ (← endStatement)
    let clause ← specifiers "export_clause" "export_specifier"
    let from' ← if ← atWord "from" then source else pure []
    return [w, clause] ++ from' ++ (← endStatement)
  if typed && (← atWord "import") then
    let w ← word "import"
    let rest ← importEquals
    return [w] ++ rest ++ (← endStatement)
  if ← atWord "default" then exportedDefault rules declaration?
  else
    match ← declaration? with
    | some d => return [d.withRole "declaration"]
    | none => failure

/-! ### Declarations of the typed dialects -/

/-- A named type. -/
def typeAlias : Parser Node :=
  construct "type_alias_declaration" do
    let w ← word "type"
    let name ← role "name" typeName
    let ts ← optionalTypeParameters rules
    let eq ← mark "="
    let v ← role "value" (rules .type)
    let close ← optionalMark ";"
    require (!close.isEmpty || (← mayEnd false))
    return [w, name] ++ ts ++ [eq, v] ++ close

/-- A named object type. -/
def interfaceDeclaration : Parser Node :=
  construct "interface_declaration" do
    let w ← word "interface"
    let name ← role "name" typeName
    let ts ← optionalTypeParameters rules
    let ext ← if ← atWord "extends" then
        (return [← construct "extends_type_clause" do
          let e ← word "extends"
          return e :: (← commaSeparated (role "type" (rules .plainType)))])
      else pure []
    return [w, name] ++ ts ++ ext ++ [← role "body" (objectType rules "interface_body")]

/-- A type of named values. -/
def enumDeclaration : Parser Node :=
  construct "enum_declaration" do
    let c ← optionalWord "const"
    let w ← word "enum"
    let name ← role "name" identifier
    let body ← construct "enum_body" do
      let opening ← mark "\x7b"
      let items ← inBrackets <| commaList "\x7d" false do
        let n ← propertyName rules
        if ← atMark "=" then grow "enum_assignment" (n.withRole "name") (← initializer rules)
        else return n.withRole "name"
      return opening :: items ++ [← mark "\x7d"]
    return c ++ [w, name, body.withRole "body"]

/-- A named group of declarations. -/
def moduleDeclaration (kind keyword : String) : Parser Node :=
  construct kind do
    let w ← word keyword
    let name ← role "name" (if (← peek).form == .string then stringLiteral else dottedName)
    if ← atMark "\x7b" then return [w, name, ← role "body" (rules .block)]
    require ((← mayEnd false) || (← atMark ";"))
    return [w, name]

/-- A function declaration, or in the typed dialects its signature alone. -/
def functionDeclaration : Parser Node := do
  let start := (← peek).start
  let async ← optionalWord "async"
  let w ← word "function"
  let star ← optionalMark "*"
  let name ← role "name" identifier
  let sig ← callSignature rules
  let head := async ++ [w] ++ star ++ [name] ++ sig
  if (← atMark "\x7b") || !(← dialect).hasTypes then
    let body ← role "body" (rules .block)
    let kind := if star.isEmpty then "function_declaration" else "generator_function_declaration"
    return .mk kind true none (← rowAt start) (← rowAt (← get).stop) none (head ++ [body])
  else
    let close ← optionalMark ";"
    require (!close.isEmpty || (← mayEnd false))
    return .mk "function_signature" true none (← rowAt start) (← rowAt (← get).stop) none
      (head ++ close)

/-- A class declaration after its marks. -/
def classDeclaration : Parser Node := do
  let start := (← peek).start
  let marks ← decorators rules
  let abs ← optionalWord "abstract"
  let rest ← classAfterMarks rules true
  let kind := if abs.isEmpty then "class_declaration" else "abstract_class_declaration"
  return .mk kind true none (← rowAt start) (← rowAt (← get).stop) none (marks ++ abs ++ rest)

/-- The next tokens are a declaration that only the typed dialects have. -/
def atTypedDeclaration : Parser Bool := do
  if !(← dialect).hasTypes then return false
  let cs := (← read).chars
  let t ← peek
  let s ← peekSecond
  let u := tokenAt cs s.stop
  if t.form != .word then return false
  match t.text with
  | "interface" => return s.form == .word
  | "type" => return s.form == .word && (u.isMark "=" || u.isMark "<")
  | "enum" => return s.form == .word
  | "const" => return s.isWord "enum"
  | "abstract" => return s.isWord "class"
  | "namespace" => return s.form == .word || s.form == .string
  | "module" => return s.form == .word || s.form == .string
  | "declare" => return s.form == .word && s.text != "in" && s.text != "instanceof"
  | _ => return false

/-- A declaration that only the typed dialects have, other than one of something elsewhere. -/
def typedDeclaration : Parser Node := do
  match (← peek).text with
  | "interface" => interfaceDeclaration rules
  | "type" => typeAlias rules
  | "enum" | "const" => enumDeclaration rules
  | "abstract" => classDeclaration rules
  | "namespace" => moduleDeclaration rules "internal_module" "namespace"
  | "module" => moduleDeclaration rules "module" "module"
  | _ => failure

/-- The next tokens are a function declaration with a name. -/
def atFunctionDeclaration : Parser Bool := do
  let cs := (← read).chars
  let t ← peek
  let s ← peekSecond
  let reserved := if (← dialect).hasTypes then [] else reservedWords
  let named (u : Token) : Bool := u.form == .word && !reserved.contains u.text
  let afterKeyword (u : Token) : Bool :=
    named u || (u.isMark "*" && named (tokenAt cs u.stop))
  if t.isWord "function" then return afterKeyword s
  return t.isWord "async" && s.isWord "function" && afterKeyword (tokenAt cs s.stop)

/-- The next tokens are a class declaration with a name. -/
def atClassDeclaration : Parser Bool := do
  let t ← peek
  let s ← peekSecond
  return t.isWord "class" && s.form == .word && !s.isWord "extends" && !s.isWord "implements"

/-- A declaration, if one stands here. -/
def declaration? : Parser (Option Node) := do
  if ← atVariables then return some (← variableList rules endStatement)
  if ← atFunctionDeclaration then return some (← functionDeclaration rules)
  if (← atClassDeclaration) then return some (← classDeclaration rules)
  if ← atTypedDeclaration then
    if !(← atWord "declare") then return some (← typedDeclaration rules)
    let n ← construct "ambient_declaration" do
      let w ← word "declare"
      if (← atWord "global") && (← peekSecond).isMark "\x7b" then
        return [w, ← word "global", ← rules .block]
      if ← atVariables then return [w, ← variableList rules endStatement]
      if ← atFunctionDeclaration then return [w, ← functionDeclaration rules]
      if ← atClassDeclaration then return [w, ← classDeclaration rules]
      if (← atTypedDeclaration) || (← atWord "abstract") then return [w, ← typedDeclaration rules]
      if ← atWord "import" then
        let i ← word "import"
        let rest ← importEquals
        return [w, i] ++ rest ++ (← endStatement)
      failure
    return some n
  return none

/-- A statement that gives something out, with the marks before it. -/
def exportStatement (marks : List Node) (start : Nat) : Parser Node := do
  let w ← word "export"
  let more ← decorators rules
  let rest ← exported rules do
    if !more.isEmpty then return some (← classDeclaration rules)
    declaration? rules
  return .mk "export_statement" true none (← rowAt start) (← rowAt (← get).stop) none
    (marks ++ [w] ++ more ++ rest)

/-- A statement after the marks of a class or of what gives it out. -/
def markedStatement : Parser Node := do
  let start := (← peek).start
  let before ← get
  let marks ← decorators rules
  if ← atWord "export" then exportStatement rules marks start
  else
    set before
    classDeclaration rules

/-! ### Statements -/

/-- The rule `block`: statements in braces. -/
def blockRule : Parser Node :=
  construct "statement_block" do
    let opening ← mark "\x7b"
    let body ← outsideBrackets (untilMark "\x7d" do return [← rules .statement])
    return opening :: body ++ [← mark "\x7d"]

/-- Words that start a statement or an expression wherever they stand at the start of one. -/
def openingWords : List String :=
  ["await", "break", "case", "class", "const", "continue", "debugger", "default", "delete", "do",
   "false", "for", "function", "if", "import", "null", "return", "super", "switch", "this", "throw",
   "true", "try", "typeof", "undefined", "var", "void", "while", "with", "yield"]

/-- The next token is a name with a colon behind it. -/
def atLabel : Parser Bool := do
  let t ← peek
  let reserved := !(← dialect).hasTypes && t.text != "export" && reservedWords.contains t.text
  return t.form == .word && !openingWords.contains t.text && !reserved &&
    (← peekSecond).isMark ":"

/-- A statement with a name that jumps refer to. -/
def labeledStatement : Parser Node :=
  construct "labeled_statement" do
    let l ← role "label" (leaf "statement_identifier" true)
    return [l, ← mark ":", ← role "body" (rules .statement)]

/-- A statement that starts with a keyword of its own, if one does. -/
def keywordStatement? : Parser (Option Node) := do
  let t ← peek
  let s ← peekSecond
  match t.text with
  | "if" => some <$> ifStatement rules
  | "for" => some <$> forStatement rules
  | "while" => some <$> construct "while_statement" do
      return [← word "while", ← condition rules, ← role "body" (rules .statement)]
  | "do" => some <$> doStatement rules
  | "switch" => some <$> switchStatement rules
  | "try" => some <$> tryStatement rules
  | "with" => some <$> construct "with_statement" do
      return [← word "with", ← role "object" (parenthesized rules),
        ← role "body" (rules .statement)]
  | "break" => some <$> jump "break_statement" "break"
  | "continue" => some <$> jump "continue_statement" "continue"
  | "debugger" => some <$> construct "debugger_statement" do
      return (← word "debugger") :: (← endStatement)
  | "return" => some <$> returnStatement rules
  | "throw" => some <$> construct "throw_statement" do
      return [← word "throw", ← rules .expressions] ++ (← endStatement)
  | "import" =>
    if s.isMark "(" || s.isMark "." then return none
    some <$> importStatement rules
  | "export" => some <$> exportStatement rules [] t.start
  | _ => return none

/-- Pass over a line that other languages of pages take for a comment. -/
def skipPageComment : Parser Unit := do
  let cs := (← read).chars
  let i := (← peek).start
  if standsAt cs i "<!--" || standsAt cs i "-->" then
    moveTo (scanWhile (!isLineEnd ·) cs i)

/-- The rule `statement`. -/
def statementRule : Parser Node := do
  let t ← peek
  match t.form with
  | .mark =>
    if t.text == "\x7b" then rules .block
    else if t.text == ";" then construct "empty_statement" do return [← mark ";"]
    else if t.text == "@" then markedStatement rules
    else expressionStatement rules
  | .word =>
    if ← atLabel then
      labeledStatement rules
    else match ← keywordStatement? rules with
      | some n => return n
      | none =>
        match ← declaration? rules with
        | some n => return n
        | none => expressionStatement rules
  | _ => expressionStatement rules

/-- Statements up to the end of the text. -/
def program : Parser Node := do
  let body ← many do
    skipPageComment
    if (← peek).form == .finish then return none
    return some (← rules .statement)
  return .mk "program" true none 0 (← rowAt (← read).chars.size) none body

end Preflight.Source.Grammar
