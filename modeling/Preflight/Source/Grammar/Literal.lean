import Preflight.Source.Grammar.Core

/-!
# Literals read character by character

Templates, patterns in slashes and markup text are not made of tokens: their inside is read
character by character, from the end of the last token on.

## Main definitions

* `template`: a template, with the parts it substitutes.
* `pattern`: a pattern in slashes, with its flags.
-/

namespace Preflight.Source.Grammar

/-- Take the characters up to a position as a leaf. -/
def rawLeaf (kind : String) (named : Bool) (j : Nat) : Parser Node := do
  let i := (← get).stop
  moveTo j
  return .mk kind named none (← rowAt i) (← rowAt j) (some (slice (← read).chars i j)) []

/-- The first position from `i` on that ends a run of plain characters of a template. -/
def templateRunEnd (cs : Chars) (i : Nat) : Nat :=
  if h : i < cs.size then
    if cs[i] == backquote || cs[i] == '\\' then i
    else if cs[i] == '$' && cs[i + 1]? == some openBrace then i
    else templateRunEnd cs (i + 1)
  else i
termination_by cs.size - i

/-- A template, read from its opening mark; `substitution` reads what stands in braces. -/
def template (kind part : String) (substitution : Parser Node) : Parser Node :=
  construct kind do
    require ((← peek).form == .template)
    let quote ← leaf backquote.toString false
    let parts ← many do
      let cs := (← read).chars
      let i := (← get).stop
      let j := templateRunEnd cs i
      if i < j then
        return some (← rawLeaf "string_fragment" true j)
      match cs[i]? with
      | some '$' =>
        return some (← construct part do
          let opening ← rawLeaf "$\x7b" false (i + 2)
          let value ← inBrackets substitution
          return [opening, value, ← mark "\x7d"])
      | some '\\' =>
        match escapeEnd? cs i with
        | some k => return some (← rawLeaf "escape_sequence" true k)
        | none => failure
      | some _ => return none
      | none => failure
    let closing ← rawLeaf backquote.toString false ((← get).stop + 1)
    return quote :: parts ++ [closing]

/-- The end of a class of characters in a pattern whose bracket is passed, if it ends. -/
def patternClassEnd? (cs : Chars) (i : Nat) : Option Nat :=
  if h : i < cs.size then
    if cs[i] == ']' then some (i + 1)
    else if cs[i] == '\n' then none
    else if cs[i] == '\\' then
      if (cs[i + 1]?).any (· != '\n') then patternClassEnd? cs (i + 2) else none
    else patternClassEnd? cs (i + 1)
  else none
termination_by cs.size - i

theorem lt_of_patternClassEnd? {cs : Chars} {i j : Nat} (h : patternClassEnd? cs i = some j) :
    i < j := by
  fun_induction patternClassEnd? cs i with
  | case1 => simp at h; omega
  | case2 => simp at h
  | case3 i _ _ _ _ _ ih => have := ih h; omega
  | case4 => simp at h
  | case5 i _ _ _ _ ih => have := ih h; omega
  | case6 => simp at h

/-- The position of the slash that closes a pattern whose opening slash is passed. -/
def patternEnd? (cs : Chars) (i : Nat) : Option Nat :=
  if h : i < cs.size then
    if cs[i] == '/' then some i
    else if cs[i] == '\n' then none
    else if cs[i] == '[' then
      match hj : patternClassEnd? cs (i + 1) with
      | some j =>
        have : i + 1 < j := lt_of_patternClassEnd? hj
        patternEnd? cs j
      | none => none
    else if cs[i] == '\\' then
      if (cs[i + 1]?).any (· != '\n') then patternEnd? cs (i + 2) else none
    else patternEnd? cs (i + 1)
  else none
termination_by cs.size - i
decreasing_by all_goals omega

/-- A pattern in slashes, read from the slash that opens it. -/
def pattern : Parser Node :=
  construct "regex" do
    let t ← peek
    require (t.isMark "/" || t.isMark "/=")
    let cs := (← read).chars
    match patternEnd? cs (t.start + 1) with
    | none => failure
    | some j =>
      require (t.start + 1 < j)
      moveTo (t.start + 1)
      let opening := Node.mk "/" false none (← rowAt t.start) (← rowAt t.start) (some "/") []
      let body ← rawLeaf "regex_pattern" true j
      let closing ← rawLeaf "/" false (j + 1)
      let k := scanWhile (fun c => 'a' ≤ c && c ≤ 'z') cs (j + 1)
      let flags ← if j + 1 < k then (return [← rawLeaf "regex_flags" true k]) else pure []
      return [opening, body.withRole "pattern", closing] ++ flags

end Preflight.Source.Grammar
