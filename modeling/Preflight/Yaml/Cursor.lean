/-!
# A place in a text

The scanner of configuration files reads a text from left to right and knows the line and the
column it has come to.

## Main definitions

* `Cursor`: the rest of a text and where it starts.
* `Cursor.advance`, `Cursor.advanceBy`, `Cursor.skipBreak`: the ways forward.
* `isBreak`, `endsWord`, `endsLine`: the characters that matter to the scanner.
-/

namespace Preflight.Yaml

/-- The rest of a text and where it starts. -/
structure Cursor where
  rest : List Char
  index : Nat := 0
  line : Nat := 0
  column : Nat := 0
  deriving Inhabited

/-- A character that ends a line. -/
def isBreak (c : Char) : Bool :=
  c == '\r' || c == '\n' || c == '\u0085' || c == '\u2028' || c == '\u2029'

/-- A line ends here, with a character or with the text. -/
def endsLine : Option Char → Bool
  | none => true
  | some c => isBreak c

/-- A word ends here: at a blank or with the line. -/
def endsSpaced : Option Char → Bool
  | none => true
  | some c => isBreak c || c == ' '

/-- A word ends here: at a blank, at a tabulator or with the line. -/
def endsWord : Option Char → Bool
  | none => true
  | some c => isBreak c || c == ' ' || c == '\t'

namespace Cursor

/-- The next character. -/
def peek (c : Cursor) : Option Char := c.rest.head?

/-- The character a number of places on. -/
def peekAt (c : Cursor) (n : Nat) : Option Char := c.rest[n]?

/-- The next characters up to a number. -/
def ahead (c : Cursor) (n : Nat) : List Char := c.rest.take n

/-- The cursor after the next character. A byte order mark has no width. -/
def advance (c : Cursor) : Cursor :=
  match c.rest with
  | [] => c
  | ch :: rest =>
    if (isBreak ch && ch != '\r') || (ch == '\r' && rest.head? != some '\n') then
      { rest, index := c.index + 1, line := c.line + 1, column := 0 }
    else { rest, index := c.index + 1, line := c.line,
           column := if ch == '\ufeff' then c.column else c.column + 1 }

/-- The cursor after a number of characters. -/
def advanceBy : Nat → Cursor → Cursor
  | 0, c => c
  | n + 1, c => advanceBy n c.advance

/-- The characters of a kind that come next. -/
def span (c : Cursor) (p : Char → Bool) : List Char := c.rest.takeWhile p

/-- The cursor after the characters of a kind that come next. -/
def skip (c : Cursor) (p : Char → Bool) : Cursor := c.advanceBy (c.span p).length

/-- The cursor after blanks. -/
def skipBlanks (c : Cursor) : Cursor := c.skip (· == ' ')

/-- The line break that comes next, as the text it stands for, and the cursor after it. -/
def skipBreak (c : Cursor) : List Char × Cursor :=
  match c.rest with
  | '\r' :: '\n' :: _ => (['\n'], c.advanceBy 2)
  | ch :: _ =>
    if ch == '\u2028' || ch == '\u2029' then ([ch], c.advance)
    else if isBreak ch then (['\n'], c.advance)
    else ([], c)
  | [] => ([], c)

/-- A line of a document comes to its end mark or to the next document's start mark. -/
def atDocumentMark (c : Cursor) : Bool :=
  (c.ahead 3 == ['-', '-', '-'] || c.ahead 3 == ['.', '.', '.']) && endsWord (c.peekAt 3)

/-- The cursor after the rest of a line, up to its break. -/
def skipLine (c : Cursor) : Cursor := c.skip (!isBreak ·)

end Cursor

end Preflight.Yaml
