import Preflight.Source.Dialect

/-!
# Tokens

Source text is read on demand: from a position on, gaps and comments are passed over and the
longest token is taken. Marks that only the grammar can tell apart (a slash that divides or opens
a pattern, an angle bracket that compares or opens a list of types) come out as plain marks, and
the grammar reads on from their start in its own way.

## Main definitions

* `isGap`, `isNameStart`, `isNameChar`: the character classes.
* `skipGaps`: the position after white space and comments.
* `Token`, `tokenAt`: the next token.
* `endsStatement`: whether a statement may end at a position with no semicolon.

## Implementation notes

A position is an index into the characters of the text; the position after the last character is
the end. Every scanner returns a position no smaller than the one it starts from.
-/

namespace Preflight.Source

/-- The characters of a source text. -/
abbrev Chars := Array Char

/-! ### Character classes -/

/-- White space that may stand between tokens. -/
def isGap (c : Char) : Bool :=
  c == ' ' || ('\t' ≤ c && c ≤ '\r') || c == '\u00a0' || c == '\u1680' ||
    ('\u2000' ≤ c && c ≤ '\u200b') || c == '\u2028' || c == '\u2029' || c == '\u202f' ||
    c == '\u205f' || c == '\u2060' || c == '\u3000' || c == '\ufeff'

/-- A character that ends a line for the purpose of ending statements. -/
def isLineEnd (c : Char) : Bool := c == '\n' || c == '\u2028' || c == '\u2029'

/-- The mark around templates. -/
def backquote : Char := Char.ofNat 0x60

/-- The opening brace. -/
def openBrace : Char := Char.ofNat 0x7B

/-- The closing brace. -/
def closeBrace : Char := Char.ofNat 0x7D

/-- The marks of the language: no name holds one. -/
def markChars : List Char :=
  [':', ';', backquote, '"', '\'', '@', '#', '.', ',', '|', '^', '&', '<', '=', '>', '+', '-', '*',
   '/', '\\', '%', '?', '!', '~', '(', ')', '[', ']', openBrace, closeBrace]

/-- A character that may go on a name: any but controls, gaps and marks. -/
def isNameChar (c : Char) : Bool :=
  ' ' < c && !isGap c && !markChars.contains c

/-- A character that may start a name. -/
def isNameStart (c : Char) : Bool := isNameChar c && !c.isDigit

/-- A hexadecimal digit. -/
def isHexDigit (c : Char) : Bool :=
  c.isDigit || ('a' ≤ c && c ≤ 'f') || ('A' ≤ c && c ≤ 'F')

/-! ### Scanners -/

/-- The first position from `i` on whose character fails `p`. -/
def scanWhile (p : Char → Bool) (cs : Chars) (i : Nat) : Nat :=
  if h : i < cs.size then
    if p cs[i] then scanWhile p cs (i + 1) else i
  else i
termination_by cs.size - i

theorem le_scanWhile (p : Char → Bool) (cs : Chars) (i : Nat) : i ≤ scanWhile p cs i := by
  fun_induction scanWhile p cs i <;> omega

/-- The position after the end of a block comment whose opening is already passed, if it ends. -/
def blockEnd? (cs : Chars) (i : Nat) : Option Nat :=
  if h : i + 1 < cs.size then
    if cs[i] == '*' && cs[i + 1] == '/' then some (i + 2) else blockEnd? cs (i + 1)
  else none
termination_by cs.size - i

theorem lt_of_blockEnd? {cs : Chars} {i j : Nat} (h : blockEnd? cs i = some j) : i < j := by
  fun_induction blockEnd? cs i with
  | case1 i hi hc => simp at h; omega
  | case2 i hi hc ih => have := ih h; omega
  | case3 => simp at h

/-- A text stands at a position. -/
def standsAt (cs : Chars) (i : Nat) (mark : String) : Bool :=
  go i mark.toList
where
  /-- The characters of the text stand one after the other. -/
  go (i : Nat) : List Char → Bool
    | [] => true
    | c :: rest => cs[i]? == some c && go (i + 1) rest

/-- The characters that end a line comment. -/
def endsLineComment (c : Char) : Bool := isLineEnd c || c == '\r'

/-- The position after white space and comments. An unclosed block comment is not passed. -/
def skipGaps (cs : Chars) (i : Nat) : Nat :=
  if h : i < cs.size then
    if isGap cs[i] then skipGaps cs (i + 1)
    else if standsAt cs i "//" then
      let j := scanWhile (!endsLineComment ·) cs (i + 2)
      have : i + 2 ≤ j := le_scanWhile ..
      skipGaps cs j
    else if standsAt cs i "/*" then
      match hj : blockEnd? cs (i + 2) with
      | some j =>
        have : i + 2 < j := lt_of_blockEnd? hj
        skipGaps cs j
      | none => i
    else i
  else i
termination_by cs.size - i
decreasing_by all_goals omega

/-- What lies between a token and the next: whether a line ends outside comments, and whether one
ends inside a block comment. -/
structure Gap where
  line : Bool := false
  lineInBlock : Bool := false

/-- Look for ends of lines among the gaps and comments from a position on. -/
def gapFrom (cs : Chars) (i : Nat) (seen : Gap) : Gap :=
  if h : i < cs.size then
    if isGap cs[i] then gapFrom cs (i + 1) { seen with line := seen.line || isLineEnd cs[i] }
    else if standsAt cs i "//" then
      let j := scanWhile (!endsLineComment ·) cs (i + 2)
      have : i + 2 ≤ j := le_scanWhile ..
      gapFrom cs j seen
    else if standsAt cs i "/*" then
      match hj : blockEnd? cs (i + 2) with
      | some j =>
        have : i + 2 < j := lt_of_blockEnd? hj
        gapFrom cs j
          { seen with lineInBlock := seen.lineInBlock || (cs.extract i j).any isLineEnd }
      | none => seen
    else seen
  else seen
termination_by cs.size - i
decreasing_by all_goals omega

/-- The text between two positions. -/
def slice (cs : Chars) (i j : Nat) : String := String.ofList (cs.extract i j).toList

/-! ### Tokens -/

/-- The forms of tokens. -/
inductive Form where
  /-- A name or a keyword. -/
  | word
  /-- A punctuation mark or operator. -/
  | mark
  | number
  | string
  /-- The mark that opens a template. -/
  | template
  /-- A name private to a class, with its sign. -/
  | privateName
  /-- The end of the text. -/
  | finish
  /-- A character that starts no token. -/
  | stray
  deriving DecidableEq, Repr

/-- A token with its text and its two ends. -/
structure Token where
  form : Form
  text : String
  start : Nat
  stop : Nat

/-- The token is a given mark. -/
def Token.isMark (t : Token) (m : String) : Bool := t.form == .mark && t.text == m

/-- The token is a given word. -/
def Token.isWord (t : Token) (w : String) : Bool := t.form == .word && t.text == w

/-- The marks of more than one character, longer ones first. -/
def longMarks : List String :=
  [">>>=", "...", "===", "!==", "**=", "<<=", ">>=", ">>>", "&&=", "||=", "??=", "=>", "==", "!=",
   "<=", ">=", "&&", "||", "??", "?.", "++", "--", "+=", "-=", "*=", "/=", "%=", "&=", "|=", "^=",
   "<<", ">>", "**"]

/-- The marks of one character. -/
def shortMarks : List Char :=
  [openBrace, closeBrace, '(', ')', '[', ']', ';', ',', '<', '>', '+', '-', '*', '/',
   '%', '&', '|', '^', '!', '~', '?', ':', '=', '.', '@']

/-- The length of the escape that spells one character of a name, if one stands here. -/
def nameEscape? (cs : Chars) (i : Nat) : Option Nat :=
  if standsAt cs i "\\u" then
    if cs[i + 2]? == some openBrace then
      let j := scanWhile isHexDigit cs (i + 3)
      if i + 3 < j && cs[j]? == some closeBrace then some (j + 1 - i) else none
    else if (List.range 4).all fun k => (cs[i + 2 + k]?).any isHexDigit then some 6
    else none
  else none

/-- The end of the name that goes on from a position. -/
def nameEnd (cs : Chars) (i : Nat) : Nat :=
  if h : i < cs.size then
    if isNameChar cs[i] then nameEnd cs (i + 1)
    else match nameEscape? cs i with
      | some n => if 0 < n then nameEnd cs (i + n) else i
      | none => i
  else i
termination_by cs.size - i
decreasing_by all_goals omega

/-- A name starts at a position. -/
def startsName (cs : Chars) (i : Nat) : Bool :=
  (cs[i]?).any isNameStart || (nameEscape? cs i).isSome

/-- The end of a run of digits, which single underscores may part. -/
def digitsEnd (isDigit : Char → Bool) (cs : Chars) (i : Nat) : Nat :=
  if h : i < cs.size then
    if isDigit cs[i] then digitsEnd isDigit cs (i + 1)
    else if cs[i] == '_' && (cs[i + 1]?).any isDigit then digitsEnd isDigit cs (i + 1)
    else i
  else i
termination_by cs.size - i

/-- The end of a number in a base other than ten, with an optional mark for a large integer. -/
def basedEnd (isDigit : Char → Bool) (cs : Chars) (i : Nat) : Nat :=
  let j := digitsEnd isDigit cs i
  if cs[j]? == some 'n' then j + 1 else j

/-- The end of an exponent, if one stands here, and else the same position. -/
def exponentEnd (cs : Chars) (i : Nat) : Nat :=
  if cs[i]? == some 'e' || cs[i]? == some 'E' then
    let j := if cs[i + 1]? == some '+' || cs[i + 1]? == some '-' then i + 2 else i + 1
    if (cs[j]?).any (·.isDigit) then digitsEnd (·.isDigit) cs j else i
  else i

/-- The end of the number that starts at a position with a digit, or with a point and a digit. -/
def numberEnd (cs : Chars) (i : Nat) : Nat :=
  let base (letter : List Char) (isDigit : Char → Bool) : Option Nat :=
    if cs[i]? == some '0' && (cs[i + 1]?).any letter.contains && (cs[i + 2]?).any isDigit then
      some (basedEnd isDigit cs (i + 2))
    else none
  match base ['x', 'X'] isHexDigit <|> base ['b', 'B'] (fun c => c == '0' || c == '1') <|>
      base ['o', 'O'] (fun c => '0' ≤ c && c ≤ '7') with
  | some j => j
  | none =>
    let j := digitsEnd (·.isDigit) cs i
    if cs[j]? == some 'n' then j + 1
    else if cs[j]? == some '.' then
      let k := if (cs[j + 1]?).any (·.isDigit) then digitsEnd (·.isDigit) cs (j + 1) else j + 1
      exponentEnd cs k
    else exponentEnd cs j

/-- The end of the escape whose backslash stands at a position, if the escape is well formed. -/
def escapeEnd? (cs : Chars) (i : Nat) : Option Nat :=
  match cs[i + 1]? with
  | none => none
  | some 'x' =>
    if (cs[i + 2]?).any isHexDigit && (cs[i + 3]?).any isHexDigit then some (i + 4) else none
  | some 'u' => (nameEscape? cs i).map (i + ·)
  | some _ => some (i + 2)

theorem lt_of_nameEscape? {cs : Chars} {i n : Nat} (h : nameEscape? cs i = some n) : 0 < n := by
  unfold nameEscape? at h
  split at h
  · split at h
    · simp only [Option.ite_none_right_eq_some] at h
      obtain ⟨h₁, h₂⟩ := h
      simp at h₁ h₂
      omega
    · simp only [Option.ite_none_right_eq_some] at h
      obtain ⟨_, h₂⟩ := h
      simp at h₂
      omega
  · simp at h

theorem lt_of_escapeEnd? {cs : Chars} {i j : Nat} (h : escapeEnd? cs i = some j) : i < j := by
  unfold escapeEnd? at h
  split at h
  · simp at h
  · simp only [Option.ite_none_right_eq_some] at h
    obtain ⟨_, h₂⟩ := h
    simp at h₂
    omega
  · obtain ⟨n, hn, rfl⟩ := Option.map_eq_some_iff.1 h
    have := lt_of_nameEscape? hn
    omega
  · simp at h
    omega

/-- The end of a quoted string whose opening quote is passed, if the string is well formed. -/
def stringEnd? (quote : Char) (cs : Chars) (i : Nat) : Option Nat :=
  if h : i < cs.size then
    if cs[i] == quote then some (i + 1)
    else if cs[i] == '\\' then
      match hj : escapeEnd? cs i with
      | some j =>
        have : i < j := lt_of_escapeEnd? hj
        stringEnd? quote cs j
      | none => none
    else if cs[i] == '\n' || cs[i] == '\r' then none
    else stringEnd? quote cs (i + 1)
  else none
termination_by cs.size - i
decreasing_by all_goals omega

/-- The mark at a position: the longest one that stands there. A question mark and a point are
two marks where a digit follows. -/
def markAt? (cs : Chars) (i : Nat) : Option String :=
  match longMarks.find? (standsAt cs i) with
  | some "?." => some (if (cs[i + 2]?).any (·.isDigit) then "?" else "?.")
  | some m => some m
  | none => (cs[i]?).bind fun c => if shortMarks.contains c then some c.toString else none

/-- The token that starts at a position, which is past gaps and comments. -/
def tokenFrom (cs : Chars) (i : Nat) : Token :=
  match cs[i]? with
  | none => ⟨.finish, "", i, i⟩
  | some c =>
    let upTo (form : Form) (j : Nat) : Token := ⟨form, slice cs i j, i, j⟩
    if startsName cs i then upTo .word (nameEnd cs i)
    else if c.isDigit || (c == '.' && (cs[i + 1]?).any (·.isDigit)) then
      upTo .number (numberEnd cs i)
    else if c == '"' || c == '\'' then
      match stringEnd? c cs (i + 1) with
      | some j => upTo .string j
      | none => upTo .stray (i + 1)
    else if c == backquote then upTo .template (i + 1)
    else if c == '#' && startsName cs (i + 1) then upTo .privateName (nameEnd cs (i + 1))
    else match markAt? cs i with
      | some m => ⟨.mark, m, i, i + m.length⟩
      | none => upTo .stray (i + 1)

/-- The next token from a position on. -/
def tokenAt (cs : Chars) (i : Nat) : Token := tokenFrom cs (skipGaps cs i)

/-! ### Ends of statements -/

/-- The word `in` or `instanceof` stands at a position. -/
def comparisonWordAt (cs : Chars) (i : Nat) : Bool :=
  let endsAt (j : Nat) : Bool := !(cs[j]?).any (·.isAlpha)
  standsAt cs i "in" && (endsAt (i + 2) || (standsAt cs i "instanceof" && endsAt (i + 10)))

/-- A statement that is complete may end at a position without a semicolon: at the end of the
text, before a closing brace, and at the end of a line unless what follows goes on with it.
`operatorFits` says that an operator could follow here. -/
def endsStatement (d : Dialect) (cs : Chars) (i : Nat) (operatorFits : Bool) : Bool :=
  let gap := gapFrom cs i {}
  let next := skipGaps cs i
  match cs[next]? with
  | none => true
  | some c =>
    if c == closeBrace then
      operatorFits || !(d.hasTypes && cs[scanWhile isGap cs (next + 1)]? == some ':')
    else if gap.line then
      if [backquote, ',', ';', '*', '%', '>', '<', '=', '?', '^', '|', '&', '/', ':'].contains c
      then
        false
      else if c == '(' || c == '[' then d.hasTypes && !operatorFits
      else if c == '.' then !d.hasTypes && (cs[next + 1]?).any (·.isDigit)
      else if c == '+' || c == '-' then cs[next + 1]? == some c
      else if c == '!' then cs[next + 1]? != some '='
      else !comparisonWordAt cs next
    else gap.lineInBlock && !d.hasTypes && !operatorFits && c != ',' && c != '='

end Preflight.Source
