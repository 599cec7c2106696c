import Preflight.Number.Decimal
import Preflight.Text.Numeral
import Preflight.Yaml.Graph

/-!
# The value of a configuration text

Every node of a document is given its value, level by level from the root; the first node that
has none is what is wrong with the text. The value of the whole is then read off as far as a
reader of configuration looks into it.

## Main definitions

* `Value`: the values.
* `scalarValue`: the value of a scalar of a kind.
* `Graph.check`: every node that is reached has a value.
* `load`: the value of a text.
-/

namespace Preflight.Yaml

open Preflight.Text

/-- The value of a configuration text. What a configuration has no use for, dates among them, is
`other`. -/
inductive Value where
  | null
  | boolean (b : Bool)
  | integer (n : Int)
  | number (v : Binary64)
  | text (s : String)
  | bytes (bs : List UInt8)
  | list (items : List Value)
  | map (pairs : List (Value × Value))
  | other
  deriving Inhabited

/-! ### Whole numbers -/

/-- The value of a digit in a base. -/
def baseDigit? (base : Nat) (c : Char) : Option Nat :=
  ((digitValue? c).or
    (if 'a' ≤ c && c ≤ 'f' then some (c.toNat - 87)
     else if 'A' ≤ c && c ≤ 'F' then some (c.toNat - 55) else none)).filter (· < base)

/-- The letter that may stand after a zero in front of a number in a base. -/
def baseLetters : List (Nat × List Char) := [(2, ['b', 'B']), (8, ['o', 'O']), (16, ['x', 'X'])]

/-- Digits without the mark of their base. -/
def dropBaseMark (base : Nat) (cs : List Char) : List Char :=
  match cs with
  | '0' :: letter :: rest =>
    if ((baseLetters.lookup base).getD []).contains letter && !rest.isEmpty then rest else cs
  | _ => cs

/-- The whole number a text denotes in a base. -/
def readInteger (base : Nat) (cs : List Char) : Except Fault Int :=
  let (negative, digits) := match strip cs with
    | '-' :: rest => (true, rest)
    | '+' :: rest => (false, rest)
    | rest => (false, rest)
  let digits := dropBaseMark base digits
  if base = 10 && digitLimit < digits.length && digits.all fun c => (digitValue? c).isSome then
    .error (.tooManyDigits digits.length)
  else
    match digits.mapM (baseDigit? base) with
    | some [] | none => .error (.notInteger base (String.ofList cs))
    | some ds =>
      let n : Int := ofDigits base ds
      .ok (if negative then -n else n)

/-- The sum of parts in base sixty. -/
def sixtieths (parts : List Int) : Int := parts.foldl (fun n p => n * 60 + p) 0

/-- A sign in front of a text, and the rest. -/
def splitSign : List Char → Bool × List Char
  | '-' :: rest => (true, rest)
  | '+' :: rest => (false, rest)
  | cs => (false, cs)

/-- The whole number a scalar denotes: in base two, eight, ten, sixteen or sixty. -/
def integerValue (text : String) : Except Fault Int :=
  match text.toList.filter (· ≠ '_') with
  | [] => .error .emptyNumber
  | cs =>
    let (negative, cs) := splitSign cs
    let signed := fun (n : Int) => if negative then -n else n
    match cs with
    | [] => .error .emptyNumber
    | ['0'] => .ok 0
    | '0' :: 'b' :: rest => (readInteger 2 rest).map signed
    | '0' :: 'x' :: rest => (readInteger 16 rest).map signed
    | '0' :: rest => (readInteger 8 ('0' :: rest)).map signed
    | cs =>
      if cs.contains ':' then
        ((colonParts cs).mapM (readInteger 10)).map fun parts => signed (sixtieths parts)
      else (readInteger 10 cs).map signed

/-! ### Numbers with a point -/

/-- The number a text denotes. -/
def readPart (cs : List Char) : Except Fault Binary64 :=
  match readNumber? cs with
  | some v => .ok v
  | none => .error (.notNumber (String.ofList cs))

/-- The sum of parts in base sixty, the last part first. The power of sixty that a part counts for
has to be a number itself. -/
def sumSixtieths : Nat → List Binary64 → Binary64 → Except Fault Binary64
  | _, [], acc => .ok acc
  | base, p :: rest, acc =>
    if (Binary64.ofQuotient? base 1).isNone then .error .tooManyParts
    else sumSixtieths (base * 60) rest (acc.plus (p.timesNat base))

/-- The number with a point that a scalar denotes. -/
def numberValue (text : String) : Except Fault Binary64 :=
  match (lowercase text).toList.filter (· ≠ '_') with
  | [] => .error .emptyNumber
  | cs =>
    let (negative, cs) := splitSign cs
    let signed := fun (v : Binary64) => if negative then v.negate else v
    if cs == ".inf".toList then .ok (.infinite negative)
    else if cs == ".nan".toList then .ok .nan
    else if cs.contains ':' then
      ((colonParts cs).mapM readPart).bind fun parts =>
        (sumSixtieths 1 parts.reverse (Binary64.round 0 1)).map signed
    else (readPart cs).map signed

/-! ### Dates -/

/-- A year has a day more. -/
def isLeapYear (y : Nat) : Bool := y % 4 == 0 && (y % 100 != 0 || y % 400 == 0)

/-- The number of days of a month. -/
def daysInMonth (year month : Nat) : Nat :=
  if month = 2 then (if isLeapYear year then 29 else 28)
  else if [4, 6, 9, 11].contains month then 30 else 31

/-- The length of a time in days and seconds, as it is named in messages. -/
def durationText (minutes : Int) : String :=
  let days := minutes.fdiv 1440
  let seconds := (minutes - days * 1440) * 60
  "datetime.timedelta(" ++
    ", ".intercalate ((if days = 0 then [] else ["days=" ++ toString days]) ++
      (if seconds = 0 then [] else ["seconds=" ++ toString seconds])) ++ ")"

/-- The first part of a date that is out of its range. A zone is looked at before the date. -/
def dateFault? (t : Timestamp) : Option String :=
  let zone := match t.time.bind (·.zone) with
    | some minutes =>
      if minutes.natAbs < 1440 then []
      else ["offset must be a timedelta strictly between -timedelta(hours=24) and " ++
        "timedelta(hours=24), not " ++ durationText minutes ++ "."]
    | none => []
  let date :=
    (if t.year = 0 then ["year 0 is out of range"] else []) ++
    (if 1 ≤ t.month && t.month ≤ 12 then [] else ["month must be in 1..12"]) ++
    (if 1 ≤ t.day && t.day ≤ daysInMonth t.year t.month then []
     else ["day is out of range for month"])
  let time := match t.time with
    | some c =>
      (if c.hour < 24 then [] else ["hour must be in 0..23"]) ++
      (if c.minute < 60 then [] else ["minute must be in 0..59"]) ++
      (if c.second < 60 then [] else ["second must be in 0..59"])
    | none => []
  (zone ++ date ++ time).head?

/-! ### Bytes -/

/-- The characters of base sixty-four. -/
def base64Digits : List Char :=
  "ABCDEFGHIJKLMNOPQRSTUVWXYZabcdefghijklmnopqrstuvwxyz0123456789+/".toList

/-- Bytes from their digits in base sixty-four, given how many digits of a group were read, what
is left of the last one and how many signs of padding came last. Other characters do not
count. -/
def base64Bytes : Nat → Nat → Nat → List Char → Except Fault (List UInt8)
  | position, _, _, [] => if position = 0 then .ok [] else .error .malformed
  | position, left, pads, c :: rest =>
    if c = '=' then
      if 2 ≤ position && 4 ≤ position + pads + 1 then .ok []
      else base64Bytes position left (if 2 ≤ position then pads + 1 else pads) rest
    else if base64Digits.contains c then
      let d := base64Digits.idxOf c
      match position with
      | 0 => base64Bytes 1 d 0 rest
      | 1 => (base64Bytes 2 (d % 16) 0 rest).map ((left * 4 + d / 16).toUInt8 :: ·)
      | 2 => (base64Bytes 3 (d % 4) 0 rest).map ((left * 16 + d / 4).toUInt8 :: ·)
      | _ => (base64Bytes 0 0 0 rest).map ((left * 64 + d).toUInt8 :: ·)
    else base64Bytes position left pads rest

/-! ### Scalars -/

/-- The words for truth values, in small letters. -/
def truthValues : List (String × Bool) :=
  [("yes", true), ("no", false), ("true", true), ("false", false), ("on", true), ("off", false)]

/-- A kind of node that is made from a scalar. -/
def Tag.isScalar : Tag → Bool
  | null | boolean | integer | number | binary | timestamp | text => true
  | _ => false

/-- A kind of node that holds others. -/
def Tag.isCollection : Tag → Bool
  | sequence | mapping | orderedMap | pairList | set => true
  | _ => false

/-- The value of a scalar of a kind. -/
def scalarValue (tag : Tag) (text : String) : Except Fault Value :=
  match tag with
  | .null => .ok .null
  | .boolean =>
    match truthValues.lookup (lowercase text) with
    | some b => .ok (.boolean b)
    | none => .error (.notBoolean (lowercase text))
  | .integer => (integerValue text).map .integer
  | .number => (numberValue text).map .number
  | .binary =>
    if text.toList.all (·.toNat < 128) then (base64Bytes 0 0 0 text.toList).map .bytes
    else .error .malformed
  | .timestamp =>
    match readTimestamp? (withoutLastBreak text.toList) with
    | none => .error .notTimestamp
    | some t =>
      match dateFault? t with
      | some reason => .error (.dateOutOfRange reason)
      | none => .ok .other
  | .text => .ok (.text text)
  | _ => .error .malformed

namespace Graph

/-- The text of a node of a scalar kind: its own, or that of the default value of a mapping. -/
def scalarText (g : Graph) : Nat → Nat → Except Fault String
  | 0, _ => .error .malformed
  | fuel + 1, id =>
    match (g.node id).content with
    | .scalar text => .ok text
    | .mapping pairs =>
      match pairs.find? fun pair => (g.node pair.1).tag == .defaultValue with
      | some pair => g.scalarText fuel pair.2
      | none => .error .malformed
    | .sequence _ => .error .malformed

/-- The kind of a node in the place of a key, where the sign of a default value is a text. -/
def keyTag (g : Graph) (id : Nat) : Tag :=
  match (g.node id).tag with
  | .defaultValue => .text
  | t => t

/-- A node of a kind has a value of its own, whatever the nodes below it. A date is read off the node
itself, whatever default value it has. -/
def checkNode (g : Graph) (tag : Tag) (id : Nat) : Except Fault Unit :=
  if tag.isCollection then .ok ()
  else if tag.isScalar then
    match g.scalarText (g.length + 1) id with
    | .error e => .error e
    | .ok text =>
      if tag = .timestamp && !(g.node id).isScalar then .error .notDateText
      else (scalarValue tag text).map fun _ => ()
  else .error .malformed

/-- The two nodes of a mapping that holds a single pair. -/
def singlePair (g : Graph) (id : Nat) : Except Fault (List (Nat × Bool)) :=
  match (g.node id).content with
  | .mapping [(k, v)] => .ok [(k, false), (v, false)]
  | _ => .error .malformed

/-- The nodes below a collection, in order, each with whether it is a key. -/
def parts (g : Graph) (id : Nat) : Except Fault (List (Nat × Bool)) :=
  let ofPairs := fun (pairs : List (Nat × Nat)) =>
    pairs.flatMap fun (k, v) => [(k, true), (v, false)]
  match (g.node id).tag, (g.node id).content with
  | .sequence, .sequence items => .ok (items.map fun i => (i, false))
  | .mapping, .mapping _ | .set, .mapping _ => (g.pairsOf (g.length + 1) [] id).map ofPairs
  | .orderedMap, .sequence items | .pairList, .sequence items =>
    (items.mapM g.singlePair).map List.flatten
  | _, _ => .error .malformed

/-- The nodes below a collection have values of their own, and its keys are no collections. What
is new is added to the nodes that were seen and to the collections still to look into. -/
def checkParts (g : Graph) :
    List (Nat × Bool) → List Nat → List Nat → Except Fault (List Nat × List Nat)
  | [], seen, waiting => .ok (seen, waiting)
  | (id, isKey) :: rest, seen, waiting =>
    let tag := if isKey then g.keyTag id else (g.node id).tag
    if seen.contains id then
      if isKey && tag.isCollection then .error .malformed else g.checkParts rest seen waiting
    else
      match g.checkNode tag id with
      | .error e => .error e
      | .ok () =>
        if isKey && tag.isCollection then .error .malformed
        else g.checkParts rest (id :: seen)
          (if tag.isCollection then waiting ++ [id] else waiting)

/-- Every node below some collections has a value. -/
def checkWaiting (g : Graph) : Nat → List Nat → List Nat → Except Fault Unit
  | _, _, [] => .ok ()
  | 0, _, _ :: _ => .error .malformed
  | fuel + 1, seen, id :: waiting =>
    match g.parts id with
    | .error e => .error e
    | .ok parts =>
      match g.checkParts parts seen waiting with
      | .error e => .error e
      | .ok (seen, waiting) => g.checkWaiting fuel seen waiting

/-- Every node has a value. -/
def check (g : Graph) : Except Fault Unit :=
  match g.checkNode (g.node 0).tag 0 with
  | .error e => .error e
  | .ok () => if (g.node 0).tag.isCollection then g.checkWaiting (g.length + 1) [0] [0] else .ok ()

/-- The value of a node of a kind, down to a number of levels. -/
def valueAt (g : Graph) : Nat → Tag → Nat → Value
  | 0, _, _ => .other
  | depth + 1, tag, id =>
    match tag, (g.node id).content with
    | .sequence, .sequence items =>
      .list (items.map fun i => g.valueAt depth (g.node i).tag i)
    | .mapping, _ =>
      .map ((((g.pairsOf (g.length + 1) [] id).toOption).getD []).map fun (k, v) =>
        (g.valueAt depth (g.keyTag k) k, g.valueAt depth (g.node v).tag v))
    | .orderedMap, .sequence items | .pairList, .sequence items =>
      .list (items.map fun _ => .other)
    | .set, _ => .other
    | tag, _ =>
      match (g.scalarText (g.length + 1) id).bind (scalarValue tag) with
      | .ok v => v
      | .error _ => .other

end Graph

/-- The number of levels that a reader of configuration looks into. -/
def readerDepth : Nat := 4

/-- What is wrong with a text, given its tokens before a fault. A text is read as far as it is
scanned, so the rules may be broken before the fault is met. -/
def faultAfter (tokens : List Token) (f : Fault) : Fault :=
  match parseDocument tokens with
  | .error (_ :: _) => .malformed
  | _ => if refersWell [] tokens then f else .malformed

/-- The value of a text. -/
def load (text : String) : Except Fault Value :=
  let (tokens, fault) := scanTokens text.toList
  match fault with
  | some f => .error (faultAfter tokens f)
  | none =>
    match parseDocument tokens with
    | .error _ => .error .malformed
    | .ok none => .ok .null
    | .ok (some phrase) =>
      match Graph.ofPhrase phrase with
      | .error e => .error e
      | .ok g => g.check.map fun _ => g.valueAt readerDepth (g.node 0).tag 0

end Preflight.Yaml
