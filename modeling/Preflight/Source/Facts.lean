import Preflight.Source.Tree
import Preflight.Source.LineCount
import Preflight.Source.Parse

/-!
# Facts of a source text

What a text says about itself: its functions with the lines they span, the variables of the file
that can be assigned again, and the functions given out without a result type. They are read off
the syntax tree; a text that does not follow the grammar has none, and keeps its line counts.

## Main definitions

* `SourceFacts`: the facts.
* `Node.functions`: the functions of a tree, in the order they start.
* `TopLevel`, `Node.topLevel`: the declarations of a file that matter, and where they come from.
* `SourceFacts.ofTree`, `SourceFacts.ofText`: the facts of a tree and of a text.

## Implementation notes

Counts are integers because facts are also taken as given from elsewhere, where nothing keeps
them from being negative.
-/

namespace Preflight.Source

/-- A function and the number of lines it spans. -/
structure FunctionSpan where
  name : String
  lineCount : Int
  deriving DecidableEq, Repr, Inhabited

/-- A variable of a file that can be assigned again, and the line of its name. -/
structure GlobalMutation where
  name : String
  line : Int
  deriving DecidableEq, Repr, Inhabited

/-- What a source text says about itself. -/
structure SourceFacts where
  functions : List FunctionSpan := []
  importCount : Int := 0
  commentLines : Int := 0
  totalLines : Int := 0
  globalMutations : List GlobalMutation := []
  missingReturnTypes : Int := 0
  deriving DecidableEq, Repr, Inhabited

/-! ### Functions -/

/-- The constructs that are functions. -/
def functionKinds : List String :=
  ["function_declaration", "generator_function_declaration", "function_expression", "function",
   "generator_function", "arrow_function", "method_definition"]

/-- The constructs that are functions and values at once. -/
def functionValueKinds : List String :=
  ["function_expression", "function", "generator_function", "arrow_function"]

/-- The constructs that declare a function by name. -/
def functionDeclarationKinds : List String :=
  ["function_declaration", "generator_function_declaration"]

/-- The constructs that declare variables. -/
def variableDeclarationKinds : List String := ["lexical_declaration", "variable_declaration"]

namespace Node

/-- A node is a function. -/
def isFunction (n : Node) : Bool := n.named && functionKinds.contains n.kind

/-- A node is a function in the place of a value. -/
def isFunctionValue (n : Node) : Bool := n.named && functionValueKinds.contains n.kind

/-- The text of the child in a role, empty where there is none. -/
def textOf (n : Node) (r : String) : String := ((n.child? r).map text).getD ""

/-- The variable a function is the value of, by its place in the tree. -/
def boundName? (parent : Option Node) : Option String :=
  parent.bind fun p =>
    if p.kind == "variable_declarator" then
      (p.child? "name").bind fun b => if b.kind == "identifier" then some b.text else none
    else none

/-- The name of a function: its own, that of the variable it is bound to, or one made from the
line it starts on. -/
def functionName (parent : Option Node) (n : Node) : String :=
  let own := n.textOf "name"
  if own != "" then own
  else match boundName? parent with
    | some b => b
    | none => (if n.kind == "arrow_function" then "arrow@" else "anonymous@") ++ toString n.line

/-- A function with its name and the lines it spans. -/
def functionSpan (parent : Option Node) (n : Node) : FunctionSpan :=
  ⟨functionName parent n, n.lineCount⟩

/-- The functions of a tree, in the order they start. -/
def functions (root : Node) : List FunctionSpan :=
  (root.walk.filter fun (_, n) => n.isFunction).map fun (parent, n) => functionSpan parent n

end Node

/-! ### Declarations of a file -/

/-- A variable of a file. -/
structure Binding where
  name : String
  line : Int
  functionValued : Bool
  hasReturnType : Bool
  deriving DecidableEq, Repr

/-- A declaration of a file that matters here. -/
inductive TopLevel where
  | function (name : String) (exported hasReturnType : Bool)
  | group (keyword : String) (exported : Bool) (bindings : List Binding)
  deriving DecidableEq, Repr

namespace Node

/-- The variable a declarator declares; none where a pattern takes a value apart. -/
def binding? (n : Node) : Option Binding :=
  if n.kind != "variable_declarator" then none
  else (n.child? "name").bind fun name =>
    if name.kind != "identifier" then none
    else
      let value := n.child? "value"
      let isFunction := value.any isFunctionValue
      some ⟨name.text, name.line, isFunction,
        isFunction && value.any fun v => (v.child? "return_type").isSome⟩

/-- The keyword of a declaration of variables. -/
def variableKeyword (n : Node) : String :=
  if n.kind == "variable_declaration" then "var"
  else match n.child? "kind" with
    | some k => k.text
    | none => (n.children.head?.map text).getD ""

/-- A declaration of variables. -/
def declaredGroup (exported : Bool) (n : Node) : TopLevel :=
  .group n.variableKeyword exported (n.namedChildren.filterMap binding?)

/-- A declaration of a function. -/
def functionTopLevel (exported : Bool) (n : Node) : TopLevel :=
  let own := n.textOf "name"
  .function (if own != "" then own else "default") exported (n.child? "return_type").isSome

/-- What a node declares, if it declares variables or a function. -/
def declared? (exported : Bool) (n : Node) : Option TopLevel :=
  if variableDeclarationKinds.contains n.kind then some (n.declaredGroup exported)
  else if functionDeclarationKinds.contains n.kind then some (n.functionTopLevel exported)
  else none

/-- What a statement that gives something out declares. -/
def exported? (n : Node) : Option TopLevel :=
  match n.child? "declaration" with
  | some d => d.declared? true
  | none =>
    if n.children.any (·.kind == "default") then
      (n.child? "value").bind fun v =>
        if v.isFunctionValue then some (v.functionTopLevel true) else none
    else none

/-- The declarations of a file. -/
def topLevel (root : Node) : List TopLevel :=
  root.namedChildren.filterMap fun n =>
    if n.kind == "export_statement" then n.exported? else n.declared? false

end Node

/-- The keywords of variables that can be assigned again. -/
def reassignableKeywords : List String := ["let", "var"]

/-- The variables of a declaration that can be assigned again. -/
def TopLevel.mutations : TopLevel → List GlobalMutation
  | .group keyword _ bindings =>
    if reassignableKeywords.contains keyword then bindings.map fun b => ⟨b.name, b.line⟩ else []
  | .function .. => []

/-- The number of functions a declaration gives out without a result type. -/
def TopLevel.missingReturnTypes : TopLevel → Nat
  | .function _ exported hasReturnType => if exported && !hasReturnType then 1 else 0
  | .group _ exported bindings =>
    if exported then bindings.countP fun b => b.functionValued && !b.hasReturnType else 0

/-! ### All facts -/

namespace SourceFacts

/-- The facts of a text nothing is known about but its number of lines. -/
def unknown (totalLines : Int) : SourceFacts := { totalLines }

/-- The facts of a text that come from its lines alone. -/
def ofLines (ls : List Line) : SourceFacts :=
  { importCount := importLines ls, commentLines := Source.commentLines ls,
    totalLines := ls.length }

/-- The facts of a text and its tree; without a tree, those of its lines. -/
def ofTree (ls : List Line) (tree : Option Node) : SourceFacts :=
  match tree with
  | none => ofLines ls
  | some root =>
    let declared := root.topLevel
    { ofLines ls with
      functions := root.functions
      globalMutations := declared.flatMap (·.mutations)
      missingReturnTypes := ((declared.map (·.missingReturnTypes)).foldr (· + ·) 0 : Nat) }

/-- The facts of a text in a dialect. -/
def ofText (d : Dialect) (text : String) : SourceFacts :=
  ofTree (lines text) (parse? d text)

end SourceFacts

end Preflight.Source
