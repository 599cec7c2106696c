import Preflight.Text.Quoted

/-!
# JSON

A report for machines is a JSON value, written over several lines with two blanks for each level
of nesting. Object members keep the order they are given in.

## Main definitions

* `Json`: the values a report uses.
* `Json.text`: their text.
-/

namespace Preflight

/-- A JSON value whose numbers are whole. -/
inductive Json where
  | null
  | bool (b : Bool)
  | num (n : Int)
  | str (s : String)
  | arr (values : List Json)
  | obj (members : List (String × Json))
  deriving Inhabited

namespace Json

/-- A list of strings. -/
def strings (xs : List String) : Json := .arr (xs.map .str)

/-- A character as it stands in a string: control characters, quotes and backslashes are
escaped, all else stands for itself. -/
def escapedChar (c : Char) : List Char :=
  if c = '"' then ['\\', '"']
  else if c = '\\' then ['\\', '\\']
  else if c = '\n' then ['\\', 'n']
  else if c = '\r' then ['\\', 'r']
  else if c = '\t' then ['\\', 't']
  else if c = '\x08' then ['\\', 'b']
  else if c = '\x0c' then ['\\', 'f']
  else if c < ' ' then '\\' :: 'u' :: Text.hexPadded 4 c.toNat
  else [c]

/-- The text of a string. -/
def stringText (s : String) : String :=
  String.ofList ('"' :: s.toList.flatMap escapedChar ++ ['"'])

/-- A line break and the blanks of a level of nesting. -/
def newLine (level : Nat) : String := "\n" ++ String.ofList (List.replicate (2 * level) ' ')

/-- Texts one to a line, between brackets; nothing between them where there are none. -/
def block (level : Nat) (opening closing : String) (items : List String) : String :=
  if items.isEmpty then opening ++ closing
  else opening ++ newLine (level + 1) ++ ("," ++ newLine (level + 1)).intercalate items ++
    newLine level ++ closing

mutual

/-- The text of a value at a level of nesting. -/
def textAt (level : Nat) : Json → String
  | null => "null"
  | bool b => if b then "true" else "false"
  | num n => toString n
  | str s => stringText s
  | arr values => block level "[" "]" (textsAt (level + 1) values)
  | obj members => block level "\x7b" "\x7d" (membersAt (level + 1) members)

/-- The texts of the values of an array. -/
def textsAt (level : Nat) : List Json → List String
  | [] => []
  | v :: rest => textAt level v :: textsAt level rest

/-- The texts of the members of an object. -/
def membersAt (level : Nat) : List (String × Json) → List String
  | [] => []
  | (k, v) :: rest => (stringText k ++ ": " ++ textAt level v) :: membersAt level rest

end

/-- The text of a value. -/
def text (v : Json) : String := textAt 0 v

end Json

end Preflight
