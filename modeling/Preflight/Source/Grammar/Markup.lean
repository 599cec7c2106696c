import Preflight.Source.Grammar.Parameter

/-!
# Markup

Elements with attributes and children, as expressions. The text between tags is read character
by character and may hold references by name; names of tags and attributes may hold hyphens.

## Main definitions

* `elementRule`: the rule `element`.
* `referenceEnd?`: the end of a reference such as the one for an ampersand.
-/

namespace Preflight.Source.Grammar

variable (rules : Rules)

/-- The end of a reference by number or name whose ampersand stands at a position. -/
def referenceEnd? (cs : Chars) (i : Nat) : Option Nat :=
  let closed (j low high : Nat) (p : Char → Bool) : Option Nat :=
    let k := scanWhile p cs j
    if low ≤ k - j && k - j ≤ high && cs[k]? == some ';' then some (k + 1) else none
  if cs[i + 1]? == some '#' then
    if cs[i + 2]? == some 'x' || cs[i + 2]? == some 'X' then closed (i + 3) 1 6 isHexDigit
    else closed (i + 2) 1 5 (·.isDigit)
  else closed (i + 1) 1 30 (·.isAlpha)

/-- The end of a quoted attribute whose opening quote is passed, if every ampersand that looks
like a reference is one. -/
def attributeEnd? (quote : Char) (cs : Chars) (i : Nat) : Option Nat :=
  if h : i < cs.size then
    if cs[i] == quote then some (i + 1)
    else if cs[i] == '&' && (cs[i + 1]?).any (fun c => c == '#' || c.isAlpha) then
      match referenceEnd? cs i with
      | some j => if i < j then attributeEnd? quote cs j else none
      | none => none
    else attributeEnd? quote cs (i + 1)
  else none
termination_by cs.size - i

/-- A character of a hyphenated name. -/
def isTagChar (c : Char) : Bool := c.isAlphanum || c == '_' || c == '$' || c == '-'

/-- A name of a tag or an attribute, which may hold hyphens. -/
def tagWord (kind : String) : Parser Node := do
  let t ← peek
  require (t.form == .word)
  let cs := (← read).chars
  let j := if cs[t.stop]? == some '-' then scanWhile isTagChar cs t.stop else t.stop
  moveTo j
  return .mk kind true none (← rowAt t.start) (← rowAt j) (some (slice cs t.start j)) []

/-- The name of a tag: a word, a word of a name space, or members of a name. -/
def tagName : Parser Node := keepText do
  let first ← tagWord "identifier"
  if ← atMark ":" then
    grow "jsx_namespace_name" first [← mark ":", ← tagWord "identifier"]
  else
    let links ← many do
      if ← atMark "." then
        let point ← mark "."
        return some [point, ← role "property" memberName]
      return none
    if links.isEmpty then return first
    grow "member_expression" (first.withRole "object") links.flatten

/-- An expression in braces, which may be left out. -/
def bracedExpression : Parser Node :=
  construct "jsx_expression" do
    let opening ← mark "\x7b"
    let inner ← inBrackets do
      if ← atMark "\x7d" then return []
      if ← atMark "..." then return [← spread rules]
      return [← rules .expressions]
    return opening :: inner ++ [← mark "\x7d"]

/-- The value of an attribute. -/
def attributeValue : Parser Node := do
  let cs := (← read).chars
  let t ← peek
  match cs[t.start]? with
  | some '"' | some '\'' =>
    match attributeEnd? (cs[t.start]?.getD '"') cs (t.start + 1) with
    | some j =>
      moveTo j
      return .mk "string" true none (← rowAt t.start) (← rowAt j) none []
    | none => failure
  | some '<' => rules .element
  | _ => bracedExpression rules

/-- An attribute: a name with a value, a name alone, or a spread expression. -/
def tagAttribute : Parser Node := do
  if ← atMark "\x7b" then bracedExpression rules
  else
    construct "jsx_attribute" do
      let first ← tagWord "property_identifier"
      let name ← if ← atMark ":" then
          grow "jsx_namespace_name" first [← mark ":", ← tagWord "identifier"]
        else pure first
      if ← atMark "=" then return [name, ← mark "=", ← attributeValue rules]
      return [name]

/-- A slash and a closing angle bracket, side by side. -/
def atSelfClose : Parser Bool := do
  return standsAt (← read).chars (← peek).start "/>"

/-- The attributes of a tag, up to its end. -/
def attributes : Parser (List Node) :=
  many do
    if (← atCloseAngle) || (← atSelfClose) then return none
    return some (← role "attribute" (tagAttribute rules))

/-- The end of a run of text between tags. -/
def markupTextEnd (cs : Chars) (i : Nat) : Nat :=
  scanWhile (fun c => c != '<' && c != '>' && c != openBrace && c != closeBrace && c != '&') cs i

/-- A run between tags holds text: something other than line ends and the space around them. -/
def holdsText (run : List Char) : Bool :=
  go false run
where
  /-- The run goes on, at the start of a line or not. -/
  go (lineStart : Bool) : List Char → Bool
    | [] => false
    | c :: rest =>
      if c == '\n' then go true rest
      else if lineStart && isGap c then go true rest
      else true

/-- What stands between the tags of an element. -/
def markupChildren : Parser (List Node) := do
  let parts ← many do
    let cs := (← read).chars
    let i := (← get).stop
    let j := markupTextEnd cs i
    if i < j then
      if holdsText (cs.extract i j).toList then
        return some [← rawLeaf "jsx_text" true j]
      moveTo j
      return some []
    if standsAt cs i "</" then return none
    match cs[i]? with
    | some '<' => moveTo i; return some [← rules .element]
    | some '&' =>
      match referenceEnd? cs i with
      | some k => return some [← rawLeaf "html_character_reference" true k]
      | none => failure
    | some _ => moveTo i; return some [← bracedExpression rules]
    | none => failure
  return parts.flatten

/-- The tag that closes an element. -/
def closingTag : Parser Node :=
  construct "jsx_closing_element" do
    let slash ← rawLeaf "</" false ((← get).stop + 2)
    if ← atCloseAngle then return [slash, ← closeAngle]
    let name ← role "name" tagName
    return [slash, name, ← closeAngle]

/-- The rule `element`: a tag that closes itself, or two tags and what is between them. -/
def elementRule : Parser Node := do
  require (← dialect).hasMarkup
  let start := (← peek).start
  let opening ← openAngle
  let inner ← if ← atCloseAngle then pure [] else do
    let name ← role "name" tagName
    let args ← if (← dialect).hasTypes && (← atOpenAngle) then
      (return [← role "type_arguments" (typeArguments rules)]) else pure []
    pure (name :: args ++ (← inBrackets (attributes rules)))
  if !inner.isEmpty && (← atSelfClose) then
    let slash ← mark "/"
    let close ← closeAngle
    return .mk "jsx_self_closing_element" true none (← rowAt start) (← rowAt (← get).stop) none
      (opening :: inner ++ [slash, close])
  else
    let close ← closeAngle
    let openTag := Node.mk "jsx_opening_element" true (some "open_tag") (← rowAt start)
      (← rowAt (← get).stop) none (opening :: inner ++ [close])
    let children ← inBrackets (markupChildren rules)
    moveTo (← get).stop
    let closeTag ← role "close_tag" closingTag
    return .mk "jsx_element" true none (← rowAt start) (← rowAt (← get).stop) none
      (openTag :: children ++ [closeTag])

end Preflight.Source.Grammar
