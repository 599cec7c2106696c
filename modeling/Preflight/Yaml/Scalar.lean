import Preflight.Yaml.Cursor
import Preflight.Yaml.Fault

/-!
# Scalars

A scalar is written plainly, between quotes, or as a block of lines. Each form has its own rules
for the line breaks inside it.

## Main definitions

* `readQuoted`: a scalar between quotes.
* `readPlain`: a scalar without marks.
* `readBlock`: a scalar written as a block of lines.
-/

namespace Preflight.Yaml

open Cursor

/-! ### Between quotes -/

/-- The characters that short escapes stand for. -/
def shortEscapes : List (Char × Char) :=
  [('0', Char.ofNat 0), ('a', '\x07'), ('b', '\x08'), ('t', '\t'), ('\t', '\t'), ('n', '\n'),
   ('v', '\x0b'), ('f', '\x0c'), ('r', '\r'), ('e', '\x1b'), (' ', ' '), ('"', '"'),
   ('\\', '\\'), ('/', '/'), ('N', '\u0085'), ('_', '\u00a0'), ('L', '\u2028'),
   ('P', '\u2029')]

/-- The number of digits of long escapes. -/
def longEscapes : List (Char × Nat) := [('x', 2), ('u', 4), ('U', 8)]

/-- The value of a digit in base sixteen. -/
def hexDigit? (c : Char) : Option Nat :=
  if c.isDigit then some (c.toNat - 48)
  else if 'a' ≤ c && c ≤ 'f' then some (c.toNat - 87)
  else if 'A' ≤ c && c ≤ 'F' then some (c.toNat - 55)
  else none

/-- The number that digits in base sixteen denote. -/
def hexNumber? (cs : List Char) : Option Nat :=
  (cs.mapM hexDigit?).map fun ds => ds.foldl (fun n d => n * 16 + d) 0

/-- The character with a code point. -/
def characterOf (code : Nat) : Except Fault Char :=
  if code < 0x110000 then .ok (Char.ofNat code)
  else if code < 0x80000000 then .error .notCharacter
  else .error .hugeCharacter

/-- Line breaks inside quotes, and the blanks around them. A mark between documents must not
stand there. -/
def quotedBreaks : Nat → Cursor → List Char → Except Fault (List Char × Cursor)
  | 0, _, _ => .error .malformed
  | fuel + 1, c, acc =>
    if c.atDocumentMark then .error .malformed
    else
      let c := c.skip fun ch => ch == ' ' || ch == '\t'
      if c.peek.any isBreak then
        let (text, c) := c.skipBreak
        quotedBreaks fuel c (acc ++ text)
      else .ok (acc, c)

/-- A character that stands for itself between quotes of either kind. -/
def isQuotedPlain (c : Char) : Bool :=
  !(c == '\'' || c == '"' || c == '\\' || c == ' ' || c == '\t' || isBreak c)

/-- Blanks and line breaks between quotes. A single line break is a blank. -/
def quotedSpaces (fuel : Nat) (c : Cursor) : Except Fault (List Char × Cursor) :=
  let isSpace := fun ch => ch == ' ' || ch == '\t'
  let spaces := c.span isSpace
  let c := c.skip isSpace
  match c.peek with
  | none => .error .malformed
  | some ch =>
    if isBreak ch then
      let (first, c) := c.skipBreak
      (quotedBreaks fuel c []).map fun (breaks, c) =>
        ((if first != ['\n'] then first else if breaks.isEmpty then [' '] else []) ++ breaks, c)
    else .ok (spaces, c)

/-- An escape after its backslash. -/
def readEscape (fuel : Nat) (c : Cursor) : Except Fault (List Char × Cursor) :=
  match c.peek with
  | none => .error .malformed
  | some ch =>
    match shortEscapes.lookup ch, longEscapes.lookup ch with
    | some stands, _ => .ok ([stands], c.advance)
    | none, some width =>
      let digits := c.advance.ahead width
      match hexNumber? digits with
      | some code =>
        if digits.length = width then
          (characterOf code).map fun ch => ([ch], c.advanceBy (width + 1))
        else .error .malformed
      | none => .error .malformed
    | none, none =>
      if isBreak ch then quotedBreaks fuel c.skipBreak.2 [] else .error .malformed

/-- What stands between quotes, up to the closing one. -/
def quotedBody (double : Bool) : Nat → Cursor → List Char → Except Fault (List Char × Cursor)
  | 0, _, _ => .error .malformed
  | fuel + 1, c, acc =>
    match c.peek with
    | none => .error .malformed
    | some ch =>
      if isQuotedPlain ch then
        quotedBody double fuel (c.skip isQuotedPlain) (acc ++ c.span isQuotedPlain)
      else if ch == '\'' && !double then
        if c.peekAt 1 == some '\'' then quotedBody double fuel (c.advanceBy 2) (acc ++ ['\''])
        else .ok (acc, c.advance)
      else if ch == '"' && double then .ok (acc, c.advance)
      else if ch == '\'' || ch == '"' || (ch == '\\' && !double) then
        quotedBody double fuel c.advance (acc ++ [ch])
      else
        match if ch == '\\' then readEscape fuel c.advance else quotedSpaces fuel c with
        | .ok (text, c) => quotedBody double fuel c (acc ++ text)
        | .error e => .error e

/-- A scalar between quotes, from its opening quote. -/
def readQuoted (double : Bool) (c : Cursor) : Except Fault (List Char × Cursor) :=
  quotedBody double (2 * c.rest.length + 2) c.advance []

/-! ### Without marks -/

/-- The characters of a plain scalar up to a blank or its end. -/
def plainRun (inFlow : Bool) : List Char → Nat
  | [] => 0
  | c :: rest =>
    if endsWord (some c) then 0
    else if c == ':' && (endsWord rest.head? ||
        (inFlow && rest.head?.any fun d => d ∈ [',', '[', ']', '\x7b', '\x7d'])) then 0
    else if inFlow && c ∈ [',', '?', '[', ']', '\x7b', '\x7d'] then 0
    else plainRun inFlow rest + 1

/-- Blanks and line breaks after a line break inside a plain scalar; none at a mark between
documents. -/
def plainBreaks : Nat → Cursor → List Char → Option (List Char) × Cursor
  | 0, c, acc => (some acc, c)
  | fuel + 1, c, acc =>
    match c.peek with
    | some ' ' => plainBreaks fuel c.advance acc
    | some ch =>
      if isBreak ch then
        let (text, c) := c.skipBreak
        if c.atDocumentMark then (none, c) else plainBreaks fuel c (acc ++ text)
      else (some acc, c)
    | none => (some acc, c)

/-- Blanks and line breaks inside a plain scalar, whether a line ended, and the cursor after
them. No text means that the scalar ends before them. -/
def plainSpaces (c : Cursor) : List Char × Bool × Cursor :=
  let spaces := c.span (· == ' ')
  let c := c.skipBlanks
  if c.peek.any isBreak then
    let (first, c) := c.skipBreak
    if c.atDocumentMark then ([], true, c)
    else match plainBreaks (c.rest.length + 1) c [] with
      | (none, c) => ([], true, c)
      | (some breaks, c) =>
        ((if first != ['\n'] then first else if breaks.isEmpty then [' '] else []) ++ breaks,
          true, c)
  else (spaces, false, c)

/-- The rest of a plain scalar at an indentation, after a text already read and blanks that
belong to it only if more text follows. The flag says whether the cursor is on a later line,
with only blanks before it. -/
def plainFrom (inFlow : Bool) (indent : Nat) :
    Nat → Cursor → List Char → List Char → Bool → List Char × Bool × Cursor
  | 0, c, acc, _, fresh => (acc, fresh, c)
  | fuel + 1, c, acc, spaces, fresh =>
    let length := plainRun inFlow c.rest
    if c.peek == some '#' || length = 0 then (acc, fresh, c)
    else
      let acc := acc ++ spaces ++ c.ahead length
      let (spaces, ended, c) := plainSpaces (c.advanceBy length)
      if spaces.isEmpty || c.peek == some '#' || (!inFlow && c.column < indent) then
        (acc, ended, c)
      else plainFrom inFlow indent fuel c acc spaces ended

/-- A plain scalar, whether a line ended after it, and the cursor after it. -/
def readPlain (inFlow : Bool) (indent : Nat) (c : Cursor) : List Char × Bool × Cursor :=
  plainFrom inFlow indent (c.rest.length + 1) c [] [] false

/-! ### Blocks of lines -/

/-- What becomes of the line breaks at the end of a block. -/
inductive Chomping where
  | keep
  | clip
  | drop
  deriving DecidableEq

/-- The sign for the line breaks at the end of a block. -/
def chomping? : Option Char → Option Chomping
  | some '+' => some .keep
  | some '-' => some .drop
  | _ => none

/-- The digit that tells the indentation of a block. -/
def increment? : Option Char → Option Nat
  | some c => if c.isDigit then some (c.toNat - 48) else none
  | none => none

/-- The head of a block: the sign and the digit, in either order. -/
def blockHead (c : Cursor) : Except Fault (Chomping × Option Nat × Cursor) :=
  let (sign, digit, c) := match chomping? c.peek with
    | some sign =>
      match increment? c.advance.peek with
      | some n => (some sign, some n, c.advanceBy 2)
      | none => (some sign, none, c.advance)
    | none =>
      match increment? c.peek with
      | some n =>
        match chomping? c.advance.peek with
        | some sign => (some sign, some n, c.advanceBy 2)
        | none => (none, some n, c.advance)
      | none => (none, none, c)
  if digit == some 0 || !endsSpaced c.peek then .error .malformed
  else .ok (sign.getD .clip, digit, c)

/-- The rest of a line that holds nothing but a comment. -/
def skipComment (c : Cursor) : Except Fault Cursor :=
  let c := c.skipBlanks
  let c := if c.peek == some '#' then c.skipLine else c
  if endsLine c.peek then .ok c.skipBreak.2 else .error .malformed

/-- The line breaks before the first line of a block, and the widest run of blanks there. -/
def blockIndentation : Nat → Cursor → List Char → Nat → List Char × Nat × Cursor
  | 0, c, acc, widest => (acc, widest, c)
  | fuel + 1, c, acc, widest =>
    match c.peek with
    | some ' ' => blockIndentation fuel c.advance acc (max widest c.advance.column)
    | some ch =>
      if isBreak ch then
        let (text, c) := c.skipBreak
        blockIndentation fuel c (acc ++ text) widest
      else (acc, widest, c)
    | none => (acc, widest, c)

/-- The cursor after the blanks of an indentation. -/
def skipIndent (indent : Nat) : Nat → Cursor → Cursor
  | 0, c => c
  | fuel + 1, c =>
    if c.column < indent && c.peek == some ' ' then skipIndent indent fuel c.advance else c

/-- The line breaks between two lines of a block. -/
def blockBreaks (indent : Nat) : Nat → Cursor → List Char → List Char × Cursor
  | 0, c, acc => (acc, c)
  | fuel + 1, c, acc =>
    let c := skipIndent indent indent c
    if c.peek.any isBreak then
      let (text, c) := c.skipBreak
      blockBreaks indent fuel c (acc ++ text)
    else (acc, c)

/-- The lines of a block, from the first one on: the text, the last line break, the line breaks
after it, and the cursor. -/
def blockLines (folded : Bool) (indent : Nat) :
    Nat → Cursor → List Char → List Char → List Char → List Char × List Char × List Char × Cursor
  | 0, c, acc, last, breaks => (acc, last, breaks, c)
  | fuel + 1, c, acc, last, breaks =>
    if c.column != indent || c.peek.isNone then (acc, last, breaks, c)
    else
      let indented := c.peek == some ' ' || c.peek == some '\t'
      let acc := acc ++ breaks ++ c.span (!isBreak ·)
      let (last, c) := c.skipLine.skipBreak
      let (breaks, c) := blockBreaks indent (c.rest.length + 1) c []
      if c.column == indent && c.peek.isSome then
        let nextIndented := c.peek == some ' ' || c.peek == some '\t'
        let joint :=
          if folded && last == ['\n'] && !indented && !nextIndented then
            if breaks.isEmpty then [' '] else []
          else last
        blockLines folded indent fuel c (acc ++ joint) last breaks
      else (acc, last, breaks, c)

/-- A scalar written as a block of lines, from its mark, at the indentation of what is around
it. -/
def readBlock (folded : Bool) (outer : Nat) (c : Cursor) :
    Except Fault (List Char × Cursor) :=
  match blockHead c.advance with
  | .error e => .error e
  | .ok (chomping, digit, c) =>
    match skipComment c with
    | .error e => .error e
    | .ok c =>
      let least := max outer 1
      let fuel := c.rest.length + 1
      let (breaks, indent, c) := match digit with
        | some n =>
          let indent := least + n - 1
          let (breaks, c) := blockBreaks indent fuel c []
          (breaks, indent, c)
        | none =>
          let (breaks, widest, c) := blockIndentation fuel c [] 0
          (breaks, max least widest, c)
      let (text, last, breaks, c) := blockLines folded indent fuel c [] [] breaks
      .ok (text ++ (if chomping = .drop then [] else last) ++
        (if chomping = .keep then breaks else []), c)

end Preflight.Yaml
