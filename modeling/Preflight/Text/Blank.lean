/-!
# Blank characters

The characters that count as white space in the texts the program reads, and the removal of
blanks at both ends of a text.

## Main definitions

* `isBlank`: the class.
* `strip`, `trimStart`, `trimEnd`: a text without the blanks at its ends.
-/

namespace Preflight.Text

/-- White space: the control characters that separate, and the spaces and separators of every
script. -/
def isBlank (c : Char) : Bool :=
  c == ' ' || ('\t' ≤ c && c ≤ '\r') || ('\x1c' ≤ c && c ≤ '\x1f') || c == '\u0085' ||
    c == '\u00a0' || c == '\u1680' || ('\u2000' ≤ c && c ≤ '\u200a') || c == '\u2028' ||
    c == '\u2029' || c == '\u202f' || c == '\u205f' || c == '\u3000'

/-- A text without the blanks it starts with. -/
def trimStart (cs : List Char) : List Char := cs.dropWhile isBlank

/-- A text without the blanks it ends with. -/
def trimEnd (cs : List Char) : List Char := (cs.reverse.dropWhile isBlank).reverse

/-- A text without the blanks at its ends. -/
def strip (cs : List Char) : List Char := trimEnd (trimStart cs)

/-- A text holds nothing but blanks. -/
def isBlankText (cs : List Char) : Bool := cs.all isBlank

end Preflight.Text
