import Preflight.Yaml.Fault

/-!
# Kinds of scalars

A plain scalar is a truth value, a number, a date or nothing at all if it is written like one;
otherwise it is text.

## Main definitions

* `Tag`: the kinds of nodes.
* `Tag.ofPlain`: the kind of a plain scalar.
* `Timestamp`, `readTimestamp?`: dates.
-/

namespace Preflight.Yaml

/-- A text without a line feed at its end. -/
def withoutLastBreak (cs : List Char) : List Char :=
  if cs.getLast? = some '\n' then cs.dropLast else cs

/-- The kinds of nodes. -/
inductive Tag where
  | null
  | boolean
  | integer
  | number
  | binary
  | timestamp
  | orderedMap
  | pairList
  | set
  | text
  | sequence
  | mapping
  | merge
  | defaultValue
  | unknown
  deriving DecidableEq, Repr, Inhabited

namespace Tag

/-- What the tags of the format start with. -/
def family : String := "tag:yaml.org,2002:"

/-- The tags of the format. -/
def known : List (String × Tag) :=
  [("null", null), ("bool", boolean), ("int", integer), ("float", number), ("binary", binary),
   ("timestamp", timestamp), ("omap", orderedMap), ("pairs", pairList), ("set", set),
   ("str", text), ("seq", sequence), ("map", mapping), ("merge", merge),
   ("value", defaultValue)]

/-- The kind a tag stands for. -/
def ofString (s : String) : Tag :=
  ((known.find? fun (name, _) => family ++ name == s).map (·.2)).getD unknown

end Tag

/-! ### Parts of numbers -/

/-- A digit of a number, or an underscore between digits. -/
def isDigitOrLine (c : Char) : Bool := c.isDigit || c == '_'

/-- A text without a sign in front. -/
def dropSign : List Char → List Char
  | '+' :: rest | '-' :: rest => rest
  | cs => cs

/-- A text is a digit followed by digits and underscores. -/
def isNumeral : List Char → Bool
  | c :: rest => c.isDigit && rest.all isDigitOrLine
  | [] => false

/-- A text is not empty and holds characters of a kind only. -/
def isRunOf (p : Char → Bool) (cs : List Char) : Bool := !cs.isEmpty && cs.all p

/-- A part of a number in base sixty: one digit, or two below sixty. -/
def isSixtieth : List Char → Bool
  | [a] => a.isDigit
  | [a, b] => '0' ≤ a && a ≤ '5' && b.isDigit
  | _ => false

/-- The parts of a text between colons. -/
def colonParts (cs : List Char) : List (List Char) :=
  cs.foldr
    (fun c parts =>
      if c = ':' then [] :: parts
      else match parts with
        | [] => [[c]]
        | part :: more => (c :: part) :: more)
    [[]]

/-- A text is written like a whole number. -/
def looksInteger (cs : List Char) : Bool :=
  match dropSign cs with
  | '0' :: 'b' :: rest => isRunOf (fun c => c == '0' || c == '1' || c == '_') rest
  | '0' :: 'x' :: rest =>
    isRunOf (fun c => isDigitOrLine c || ('a' ≤ c && c ≤ 'f') || ('A' ≤ c && c ≤ 'F')) rest
  | '0' :: rest => rest.all fun c => ('0' ≤ c && c ≤ '7') || c == '_'
  | rest =>
    match colonParts rest with
    | first :: others => isNumeral first && others.all isSixtieth
    | [] => false

/-- A text is empty or an exponent with its sign. -/
def isExponent : List Char → Bool
  | [] => true
  | e :: sign :: digits =>
    (e == 'e' || e == 'E') && (sign == '+' || sign == '-') && isRunOf Char.isDigit digits
  | _ => false

/-- A text is written like a number with a point. -/
def looksNumber (cs : List Char) : Bool :=
  let unsigned := dropSign cs
  let whole := unsigned.takeWhile (· ≠ '.')
  match unsigned.dropWhile (· ≠ '.') with
  | [] => false
  | _ :: rest =>
    let fraction := rest.takeWhile isDigitOrLine
    let after := rest.dropWhile isDigitOrLine
    let sexagesimal := match colonParts whole with
      | first :: others =>
        !others.isEmpty && isNumeral first && others.all isSixtieth && after.isEmpty
      | [] => false
    (isNumeral whole && isExponent after) ||
      (cs.head? == some '.' && isNumeral fraction && isExponent after) || sexagesimal ||
      (whole.isEmpty && ["inf", "Inf", "INF"].contains (String.ofList rest)) ||
      [".nan", ".NaN", ".NAN"].contains (String.ofList cs)

/-! ### Dates -/

/-- The time of a day: hour, minute, second, and how far the zone is off in minutes. -/
structure TimeOfDay where
  hour : Nat
  minute : Nat
  second : Nat
  zone : Option Int
  deriving DecidableEq, Repr

/-- A date, and the number of digits of its month and day. -/
structure Timestamp where
  year : Nat
  month : Nat
  day : Nat
  twoDigits : Bool
  time : Option TimeOfDay
  deriving DecidableEq, Repr

/-- The number some digits denote. -/
def decimal (cs : List Char) : Nat := cs.foldl (fun n c => n * 10 + (c.toNat - 48)) 0

/-- Digits at the start of a text, as many as are asked for, and the rest. -/
def digits? (n : Nat) (cs : List Char) : Option (Nat × List Char) :=
  let ds := cs.take n
  if ds.length = n && ds.all Char.isDigit then some (decimal ds, cs.drop n) else none

/-- One or two digits at the start of a text, and the rest. -/
def oneOrTwoDigits? (cs : List Char) : Option (Nat × List Char) :=
  (digits? 2 cs).or (digits? 1 cs)

/-- A character at the start of a text, and the rest. -/
def mark? (c : Char) : List Char → Option (List Char)
  | d :: rest => if c = d then some rest else none
  | [] => none

/-- A blank between the parts of a date. -/
def isGap (c : Char) : Bool := c == ' ' || c == '\t'

/-- The zone of a time, up to the end of a text. -/
def readZone? (cs : List Char) : Option (Option Int) :=
  match cs.dropWhile isGap with
  | [] => if cs.isEmpty then some none else none
  | ['Z'] => some (some 0)
  | sign :: rest =>
    if sign != '+' && sign != '-' then none
    else (oneOrTwoDigits? rest).bind fun (hours, rest) =>
      let minutes := match rest with
        | [] => some 0
        | ':' :: rest =>
          match digits? 2 rest with
          | some (n, []) => some n
          | _ => none
        | _ => none
      minutes.map fun m =>
        let total : Int := hours * 60 + m
        some (if sign == '-' then -total else total)

/-- The time of a day, up to the end of a text. -/
def readTime? (cs : List Char) : Option TimeOfDay := do
  let rest ← match cs with
    | 'T' :: rest | 't' :: rest => some rest
    | c :: rest => if isGap c then some (rest.dropWhile isGap) else none
    | [] => none
  let (hour, rest) ← oneOrTwoDigits? rest
  let (minute, rest) ← digits? 2 (← mark? ':' rest)
  let (second, rest) ← digits? 2 (← mark? ':' rest)
  let rest := match rest with
    | '.' :: rest => rest.dropWhile Char.isDigit
    | _ => rest
  let zone ← readZone? rest
  pure ⟨hour, minute, second, zone⟩

/-- The date a text denotes. -/
def readTimestamp? (cs : List Char) : Option Timestamp := do
  let (year, rest) ← digits? 4 cs
  let afterYear ← mark? '-' rest
  let (month, rest) ← oneOrTwoDigits? afterYear
  let afterMonth ← mark? '-' rest
  let (day, rest') ← oneOrTwoDigits? afterMonth
  let twoDigits := rest.length + 2 = afterYear.length && rest'.length + 2 = afterMonth.length
  if rest'.isEmpty then pure ⟨year, month, day, twoDigits, none⟩
  else
    let time ← readTime? rest'
    pure ⟨year, month, day, twoDigits, some time⟩

/-- A text is written like a date. -/
def looksTimestamp (cs : List Char) : Bool :=
  (readTimestamp? cs).any fun t => t.time.isSome || t.twoDigits

/-! ### The kind of a plain scalar -/

/-- The words for truth values. -/
def truthWords : List String :=
  ["yes", "Yes", "YES", "no", "No", "NO", "true", "True", "TRUE", "false", "False", "FALSE",
   "on", "On", "ON", "off", "Off", "OFF"]

/-- The words for nothing. -/
def nullWords : List String := ["~", "null", "Null", "NULL", ""]

/-- The kind of a plain scalar. A line feed at its end does not count. -/
def Tag.ofPlain (s : String) : Tag :=
  let cs := s.toList
  let cs := if cs.length = 1 then cs else withoutLastBreak cs
  let word := String.ofList cs
  if truthWords.contains word then .boolean
  else if looksNumber cs then .number
  else if looksInteger cs then .integer
  else if word == "<<" then .merge
  else if nullWords.contains word then .null
  else if looksTimestamp cs then .timestamp
  else if word == "=" then .defaultValue
  else .text

end Preflight.Yaml
