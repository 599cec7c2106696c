import Preflight.Listing
import Preflight.Text.Blank
import Preflight.Text.WordChar

/-!
# Import specifiers

The files a text depends on are named by quoted specifiers after `from`, `import` and `require`.
They are looked for in the bare text, four forms one after another; what stands in comments or
strings is found as well.

## Main definitions

* `ImportForm`: a form in which a specifier stands.
* `ImportForm.read?`: the specifier of a form at the start of a text.
* `scan`: the specifiers of a form in a text, from left to right, without overlap.
* `importSpecifiers`: the specifiers of a text, each once.
-/

namespace Preflight

open Preflight.Text

/-- A form in which a specifier stands: after a word, or in parentheses after a word. -/
structure ImportForm where
  word : String
  called : Bool
  deriving DecidableEq, Repr

/-- The forms, in the order in which they are looked for. -/
def importForms : List ImportForm :=
  [⟨"from", false⟩, ⟨"import", false⟩, ⟨"require", true⟩, ⟨"import", true⟩]

/-- A quotation mark around a specifier. -/
def isQuote (c : Char) : Bool := c == '\'' || c == '"'

/-- A character that may stand in a specifier. -/
def isSpecifierChar (c : Char) : Bool := !isQuote c && c != '\n'

/-- The rest of a text after a word it starts with. -/
def dropWord? : List Char → List Char → Option (List Char)
  | [], cs => some cs
  | _ :: _, [] => none
  | w :: ws, c :: cs => if w = c then dropWord? ws cs else none

/-- The rest of a text after blanks and a character. -/
def dropMark? (mark : Char) (cs : List Char) : Option (List Char) :=
  match cs.dropWhile isBlank with
  | c :: rest => if c = mark then some rest else none
  | [] => none

/-- A quoted specifier after blanks, and the rest of the text. The two quotation marks need not
be the same. -/
def readQuoted? (cs : List Char) : Option (List Char × List Char) :=
  match cs.dropWhile isBlank with
  | q :: rest =>
    let spec := rest.takeWhile isSpecifierChar
    match rest.dropWhile isSpecifierChar with
    | r :: after => if isQuote q && isQuote r && !spec.isEmpty then some (spec, after) else none
    | [] => none
  | [] => none

/-- The specifier of a form at the start of a text, and the rest of the text. -/
def ImportForm.read? (form : ImportForm) (cs : List Char) : Option (List Char × List Char) :=
  (dropWord? form.word.toList cs).bind fun rest =>
    if form.called then
      (dropMark? '(' rest).bind fun rest =>
        (readQuoted? rest).bind fun (spec, rest) =>
          (dropMark? ')' rest).map fun rest => (spec, rest)
    else readQuoted? rest

/-- A word may start after a character, or at the start of a text. -/
def startsWord (before : Option Char) : Bool := !before.any isWordChar

/-- The specifiers of a form in a text, from left to right, without overlap. The number is how
many characters belong to a form already read. -/
def scan (form : ImportForm) : Nat → Option Char → List Char → List (List Char)
  | _, _, [] => []
  | n + 1, _, c :: cs => scan form n (some c) cs
  | 0, before, c :: cs =>
    match if startsWord before then form.read? (c :: cs) else none with
    | some (spec, rest) => spec :: scan form (cs.length - rest.length) (some c) cs
    | none => scan form 0 (some c) cs

/-- The specifiers of a text in the order of the forms, without blanks around them. -/
def rawSpecifiers (text : List Char) : List String :=
  importForms.flatMap fun form => (scan form 0 none text).map fun spec => String.ofList (strip spec)

/-- The specifiers of a text, each once. -/
def importSpecifiers (text : List Char) : List String :=
  distinct ((rawSpecifiers text).filter (· ≠ ""))

end Preflight
