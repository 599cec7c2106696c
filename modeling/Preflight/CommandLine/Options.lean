import Preflight.Text.Digit
import Preflight.Text.Quoted

/-!
# Options and operands

A grammar of a command line names its options and says what stands beside them. Every argument
is first classified on its own, by its form and by the names of the options; only then are the
options carried out in order. A long option may be shortened as far as it stays unique, short
ones may share a dash, and a value may be attached to its option.

What no rule takes is left over. It is for the caller to refuse it, because the arguments of a
command are classified twice: by the grammar of the program and by that of the command.

## Main definitions

* `OptionSpec`, `Operands`, `Grammar`: what a command line may hold.
* `Grammar.classify`: what an argument is.
* `Grammar.read`: what a command line says, and what is left over.
-/

namespace Preflight.CommandLine

/-- Why a command line is not carried out. -/
inductive Stop where
  | usage (program message : String)
  | version
  | help (program : String)
  deriving DecidableEq, Repr, Inhabited

/-- What an option does to what was read before it. -/
inductive Effect (σ : Type) where
  | flag (set : σ → σ)
  | value (read : String → Except String (σ → σ))
  | stop (reason : Stop)

/-- An option: its names, what it does, and the titles of the options it cannot stand with. -/
structure OptionSpec (σ : Type) where
  names : List String
  effect : Effect σ
  excludes : List String := []

namespace OptionSpec

variable {σ : Type}

/-- How messages call an option. -/
def title (o : OptionSpec σ) : String := "/".intercalate o.names

/-- An option takes a value. -/
def takesValue (o : OptionSpec σ) : Bool :=
  match o.effect with
  | .value _ => true
  | _ => false

end OptionSpec

/-- What stands beside the options: nothing, at most one argument, or the name of a command with
all that follows it. -/
inductive Operands (σ : Type) where
  | nothing
  | optional (set : String → σ → σ)
  | command (title : String) (read : List String → σ → Except Stop (σ × List String))

/-- What a command line may hold. -/
structure Grammar (σ : Type) where
  program : String
  options : List (OptionSpec σ)
  operands : Operands σ

/-- A value attached to an option, and whether an equals sign stands between the two. -/
structure Attached where
  text : List Char
  afterEquals : Bool
  deriving DecidableEq, Repr, Inhabited

/-- What an argument is. An option that nobody knows is one as well. -/
inductive ArgumentKind (σ : Type) where
  | operand
  | separator
  | option (spec : Option (OptionSpec σ)) (name : String) (attached : Option Attached)

/-! ### Forms of arguments -/

/-- The part of a text before its first equals sign, and the part after it if there is one. -/
def cutAtEquals (cs : List Char) : List Char × Option (List Char) :=
  match cs.dropWhile (· != '=') with
  | [] => (cs, none)
  | _ :: rest => (cs.takeWhile (· != '='), some rest)

/-- One or more digits. -/
def areDigits (cs : List Char) : Bool := !cs.isEmpty && cs.all fun c => (Text.digitValue? c).isSome

/-- A text without a line feed at its end. -/
def withoutFinalBreak (cs : List Char) : List Char :=
  if cs.getLast? = some '\n' then cs.dropLast else cs

/-- A negative number: a dash, and digits with at most one point among or before them. -/
def isNegativeNumber : List Char → Bool
  | '-' :: rest =>
    let cs := withoutFinalBreak rest
    let isDigit := fun c => (Text.digitValue? c).isSome
    match cs.dropWhile isDigit with
    | [] => areDigits cs
    | '.' :: decimals => areDigits decimals
    | _ => false
  | _ => false

namespace Grammar

variable {σ : Type}

/-- A fault in the use of the program. -/
def wrong {α : Type} (g : Grammar σ) (message : String) : Except Stop α :=
  .error (.usage g.program message)

/-- A fault in the use of an option. -/
def wrongAt {α : Type} (g : Grammar σ) (title message : String) : Except Stop α :=
  g.wrong ("argument " ++ title ++ ": " ++ message)

/-- The names of all options, each with its option. -/
def named (g : Grammar σ) : List (String × OptionSpec σ) :=
  g.options.flatMap fun o => o.names.map fun n => (n, o)

/-- The option of a name. -/
def find? (g : Grammar σ) (name : String) : Option (OptionSpec σ) := g.named.lookup name

/-- The options that a text which is the name of none may stand for. -/
def candidates (g : Grammar σ) (cs : List Char) :
    List (OptionSpec σ × String × Option Attached) :=
  match cs with
  | '-' :: '-' :: _ =>
    let (start, value) := cutAtEquals cs
    g.named.filterMap fun (name, o) =>
      if start.isPrefixOf name.toList then some (o, name, value.map fun v => ⟨v, true⟩) else none
  | _ =>
    g.named.filterMap fun (name, o) =>
      if name.toList = cs.take 2 then some (o, name, some ⟨cs.drop 2, false⟩)
      else if cs.isPrefixOf name.toList then some (o, name, none)
      else none

/-- What an argument with a dash in front is that is not the name of an option. -/
def classifyDashed (g : Grammar σ) (s : String) : Except Stop (ArgumentKind σ) :=
  let cs := s.toList
  match g.candidates cs with
  | [(o, name, attached)] => .ok (.option (some o) name attached)
  | [] =>
    if isNegativeNumber cs || cs.contains ' ' then .ok .operand else .ok (.option none s none)
  | several =>
    g.wrong ("ambiguous option: " ++ s ++ " could match " ++
      ", ".intercalate (several.map fun (_, name, _) => name))

/-- What an argument is, before any separator. -/
def classify (g : Grammar σ) (s : String) : Except Stop (ArgumentKind σ) :=
  match s.toList with
  | '-' :: _ :: _ =>
    match g.find? s, cutAtEquals s.toList with
    | some o, _ => .ok (.option (some o) s none)
    | none, (start, some value) =>
      match g.find? (String.ofList start) with
      | some o => .ok (.option (some o) (String.ofList start) (some ⟨value, true⟩))
      | none => g.classifyDashed s
    | none, (_, none) => g.classifyDashed s
  | _ => .ok .operand

/-- Arguments with what they are. After a separator nothing is an option. -/
def classifyAll (g : Grammar σ) : List String → Except Stop (List (String × ArgumentKind σ))
  | [] => .ok []
  | s :: rest =>
    if s = "--" then .ok ((s, .separator) :: rest.map fun r => (r, .operand))
    else do
      let kind ← g.classify s
      let others ← g.classifyAll rest
      pure ((s, kind) :: others)

/-! ### Options in one argument -/

/-- What is left to do for an argument after the options that are complete in it. -/
inductive Remainder (σ : Type) where
  | done
  | unknown (argument : String)
  | pending (spec : OptionSpec σ)

/-- The options that one argument holds, with their values, for an option with something
attached to it: its value, or more short options behind the same dash. -/
def unfold (g : Grammar σ) (o : OptionSpec σ) (isShort : Bool) (attached : List Char)
    (afterEquals : Bool) : Except Stop (List (OptionSpec σ × Option String) × Remainder σ) :=
  if o.takesValue then .ok ([(o, some (String.ofList attached))], .done)
  else
    let ignored := g.wrongAt o.title
      ("ignored explicit argument " ++ Text.quoted (String.ofList attached))
    match attached with
    | [] => ignored
    | c :: rest =>
      if !isShort || afterEquals || c = '-' then ignored
      else
        match g.find? (String.ofList ['-', c]), rest with
        | none, _ => .ok ([(o, none)], .unknown (String.ofList ('-' :: c :: rest)))
        | some next, [] => .ok ([(o, none)], .pending next)
        | some next, '=' :: value =>
          (g.unfold next true value true).map fun (more, left) => ((o, none) :: more, left)
        | some next, d :: others =>
          (g.unfold next true (d :: others) false).map fun (more, left) =>
            ((o, none) :: more, left)
termination_by attached.length

/-- The short form of an option has one dash. -/
def isShortName (name : String) : Bool :=
  match name.toList with
  | '-' :: '-' :: _ => false
  | _ => true

/-- The options that an argument holds, what is left over of it, and the number of arguments
after it that it takes as a value. -/
def options? (g : Grammar σ) (s : String) (spec : Option (OptionSpec σ)) (name : String)
    (attached : Option Attached) (next : List (String × ArgumentKind σ)) :
    Except Stop (List (OptionSpec σ × Option String) × List String × Nat) :=
  match spec with
  | none => .ok ([], [s], 0)
  | some o => do
    let (complete, left) ←
      match attached with
      | some a => g.unfold o (isShortName name) a.text a.afterEquals
      | none => .ok ([], .pending o)
    match left with
    | .done => pure (complete, [], 0)
    | .unknown argument => pure (complete, [argument], 0)
    | .pending last =>
      if last.takesValue then
        match next with
        | (value, .operand) :: _ => pure (complete ++ [(last, some value)], [], 1)
        | _ => g.wrongAt last.title "expected one argument"
      else pure (complete ++ [(last, none)], [], 0)

/-! ### Reading -/

/-- What was read so far: what it says, whether an operand is still awaited, the titles of the
options given, and what is left over. -/
structure Reading (σ : Type) where
  value : σ
  awaiting : Bool := true
  given : List String := []
  leftOver : List String := []

/-- What was read after one more option. -/
def apply (g : Grammar σ) (r : Reading σ) (o : OptionSpec σ) (value : Option String) :
    Except Stop (Reading σ) := do
  let set ←
    match o.effect with
    | .stop reason => .error reason
    | .flag set => .ok set
    | .value read =>
      match read (value.getD "") with
      | .ok set => .ok set
      | .error message => g.wrongAt o.title message
  match o.excludes.find? r.given.contains with
  | some other => g.wrongAt o.title ("not allowed with argument " ++ other)
  | none => pure { r with value := set r.value, given := o.title :: r.given }

/-- What was read after some more options. -/
def applyAll (g : Grammar σ) (r : Reading σ) :
    List (OptionSpec σ × Option String) → Except Stop (Reading σ)
  | [] => .ok r
  | (o, value) :: rest => do
    let r ← g.apply r o value
    g.applyAll r rest

/-- Arguments without a separator at their front. -/
def dropSeparator : List (String × ArgumentKind σ) → List (String × ArgumentKind σ)
  | (_, .separator) :: rest => rest
  | arguments => arguments

theorem length_dropSeparator_le (arguments : List (String × ArgumentKind σ)) :
    (dropSeparator arguments).length ≤ arguments.length := by
  unfold dropSeparator
  split <;> simp

/-- What was read after some more arguments. -/
def readFrom (g : Grammar σ) (r : Reading σ) (arguments : List (String × ArgumentKind σ)) :
    Except Stop (Reading σ) :=
  match arguments with
  | [] => .ok r
  | (s, .option spec name attached) :: rest => do
    let (options, leftOver, taken) ← g.options? s spec name attached rest
    let r ← g.applyAll r options
    g.readFrom { r with leftOver := r.leftOver ++ leftOver } (rest.drop taken)
  | (s, .operand) :: rest =>
    match r.awaiting, g.operands with
    | true, .optional set =>
      g.readFrom { r with value := set s r.value, awaiting := false } (dropSeparator rest)
    | true, .command _ read => do
      let (value, leftOver) ← read (s :: rest.map (·.1)) r.value
      pure { r with value, awaiting := false, leftOver := r.leftOver ++ leftOver }
    | _, _ => g.readFrom { r with leftOver := r.leftOver ++ [s] } rest
  | (s, .separator) :: rest =>
    match r.awaiting, g.operands with
    | true, .optional set =>
      let value := match rest with
        | [] => r.value
        | (only, _) :: _ => set only r.value
      g.readFrom { r with value, awaiting := false } (rest.drop 1)
    | true, .command _ read =>
      if rest.isEmpty then .ok { r with leftOver := r.leftOver ++ [s] }
      else do
        let (value, leftOver) ← read (s :: rest.map (·.1)) r.value
        pure { r with value, awaiting := false, leftOver := r.leftOver ++ leftOver }
    | _, _ => g.readFrom { r with leftOver := r.leftOver ++ [s] } rest
termination_by arguments.length
decreasing_by
  all_goals grind [length_dropSeparator_le]

/-- What a command line says, and what is left over. A command has to be there. -/
def read (g : Grammar σ) (arguments : List String) (start : σ) :
    Except Stop (σ × List String) := do
  let kinds ← g.classifyAll arguments
  let r ← g.readFrom { value := start } kinds
  match r.awaiting, g.operands with
  | true, .command title _ => g.wrong ("the following arguments are required: " ++ title)
  | _, _ => pure (r.value, r.leftOver)

end Grammar

/-! ### Values -/

/-- A value that has to be one of some names. -/
def choice (names : List String) (s : String) : Except String String :=
  if names.contains s then .ok s
  else .error ("invalid choice: " ++ Text.quoted s ++ " (choose from " ++
    ", ".intercalate (names.map Text.quoted) ++ ")")

end Preflight.CommandLine
