/-!
# Colours

A terminal shows a text in a colour or in bold between two escape sequences. Without colours the
text stands alone.

## Main definitions

* `Shade`, `Style.wrap`: a text in a colour.
* `verdict`: what a score means.
* `padRight`: a text filled with blanks up to a width.
-/

namespace Preflight

/-- The escape sequences in use. -/
inductive Shade where
  | red
  | yellow
  | green
  | bold
  | dim
  deriving DecidableEq, Repr

/-- The escape sequence that starts a shade. -/
def Shade.code : Shade → String
  | red => "\x1b[31m"
  | yellow => "\x1b[33m"
  | green => "\x1b[32m"
  | bold => "\x1b[1m"
  | dim => "\x1b[2m"

/-- The escape sequence that ends every shade. -/
def resetCode : String := "\x1b[0m"

/-- Whether texts are shown in colours. -/
structure Style where
  color : Bool
  deriving DecidableEq, Repr

namespace Style

/-- A text in some shades. -/
def wrap (style : Style) (shades : List Shade) (text : String) : String :=
  if style.color then String.join (shades.map (·.code)) ++ text ++ resetCode else text

end Style

/-- From this score on all is well. -/
def goodScore : Int := 70

/-- From this score on things are not bad. -/
def fairScore : Int := 40

/-- The colour of a score. -/
def scoreShade (score : Int) : Shade :=
  if goodScore ≤ score then .green else if fairScore ≤ score then .yellow else .red

/-- What the score of a project means. -/
def verdict (overall : Int) : String :=
  if goodScore ≤ overall then "✓ AI-ready"
  else if fairScore ≤ overall then "⚠ some modules need work before AI sessions"
  else "✗ significant refactoring needed"

/-- Blanks. -/
def blanks (n : Nat) : String := String.ofList (List.replicate n ' ')

/-- A text filled with blanks up to a width. -/
def padRight (width : Nat) (s : String) : String := s ++ blanks (width - s.length)

end Preflight
