/-!
# Line breaks

A line of a file may end in a line feed, a carriage return, or both; a text read from a file has
line feeds alone. Where a text is cut into its lines for their own sake, more characters end a
line than the line feed.

## Main definitions

* `unifyBreaks`: a text with a line feed for every line ending.
* `isLineBreak`, `splitLines`: the characters that end a line, and the lines between them.
-/

namespace Preflight.Text

/-- A text with a line feed for every carriage return, alone or before a line feed. -/
def unifyBreaks : List Char → List Char
  | [] => []
  | '\r' :: '\n' :: rest => '\n' :: unifyBreaks rest
  | c :: rest => (if c = '\r' then '\n' else c) :: unifyBreaks rest

/-- A character that ends a line. -/
def isLineBreak (c : Char) : Bool :=
  ('\n' ≤ c && c ≤ '\r') || ('\x1c' ≤ c && c ≤ '\x1e') || c == '\u0085' || c == '\u2028' ||
    c == '\u2029'

/-- The lines of a text between the characters that end a line. -/
def splitLines (cs : List Char) : List (List Char) :=
  cs.foldr
    (fun c lines =>
      if isLineBreak c then [] :: lines
      else match lines with
        | [] => [[c]]
        | line :: more => (c :: line) :: more)
    [[]]

end Preflight.Text
