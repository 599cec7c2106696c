import Preflight.Number.Binary64
import Preflight.Text.Blank
import Preflight.Text.Digit
import Preflight.Text.LetterCase

/-!
# Decimal text of numbers

A number of sixty-four bits is read from decimal text by rounding to the nearest, and written
with the fewest digits that read back as the same number: the nearest such digits where several
do.

## Main definitions

* `readNumber?`: the number a text denotes.
* `shortestDigits`: the fewest digits that read back, and the power of ten of the last one.
* `numberText`: the text of a number.
-/

namespace Preflight

namespace Binary64

/-- A quotient rounded; an infinity where it is too large. -/
def round (num : Int) (den : Nat) : Binary64 :=
  (ofQuotient? num den).getD (.infinite (num < 0))

/-- A whole number times a power of ten, rounded. What is far out of range is not computed. -/
def ofDecimal (m : Nat) (power : Int) : Binary64 :=
  let magnitude : Int := (Nat.toDigits 10 m).length + power
  if m = 0 || magnitude < -400 then round 0 1
  else if 400 < magnitude then .infinite false
  else if 0 ≤ power then round (m * Nat.pow 10 power.toNat : Nat) 1
  else round m (Nat.pow 10 (-power).toNat)

/-- A number with the other sign. -/
def negate : Binary64 → Binary64
  | finite negative m e => finite (!negative) m e
  | infinite negative => infinite (!negative)
  | nan => nan

/-- A number that is finite as a quotient of whole numbers. -/
def ratio : Binary64 → Int × Nat
  | finite negative m e =>
    let (n, d) := scaled m 1 (-e)
    (signed negative n, d)
  | _ => (0, 1)

/-- The sum of two numbers, rounded. -/
def plus (a b : Binary64) : Binary64 :=
  match a, b with
  | finite .., finite .. =>
    let (n, d) := a.ratio
    let (m, e) := b.ratio
    round (n * e + m * d) (d * e)
  | infinite s, infinite t => if s = t then infinite s else nan
  | infinite s, finite .. | finite .., infinite s => infinite s
  | nan, _ | _, nan => nan

/-- A number times a whole number above zero, rounded. -/
def timesNat (a : Binary64) (k : Nat) : Binary64 :=
  match a with
  | finite .. =>
    let (n, d) := a.ratio
    let (m, e) := (round k 1).ratio
    round (n * m) (d * e)
  | other => other

end Binary64

namespace Text

/-! ### Reading -/

/-- The digits at the start of a text, their number as well as how many they are, and the
rest. -/
def digitRun : List Char → Nat → Nat → Nat × Nat × List Char
  | c :: rest, n, count =>
    match digitValue? c with
    | some d => digitRun rest (n * 10 + d) (count + 1)
    | none => (n, count, c :: rest)
  | [], n, count => (n, count, [])

/-- The power of ten at the end of a text. -/
def readExponent? : List Char → Option Int
  | [] => some 0
  | e :: rest =>
    if e != 'e' && e != 'E' then none
    else
      let (negative, rest) := match rest with
        | '-' :: rest => (true, rest)
        | '+' :: rest => (false, rest)
        | _ => (false, rest)
      match digitRun rest 0 0 with
      | (_, 0, _) => none
      | (n, _, []) => some (if negative then -(n : Int) else n)
      | _ => none

/-- The number without a sign that a text denotes. -/
def readUnsigned? (cs : List Char) : Option Binary64 :=
  let word := lowercase (String.ofList cs)
  if word == "inf" || word == "infinity" then some (.infinite false)
  else if word == "nan" then some .nan
  else
    let (whole, count, rest) := digitRun cs 0 0
    let (m, total, places, rest) := match rest with
      | '.' :: rest =>
        let (m, more, rest) := digitRun rest whole 0
        (m, count + more, more, rest)
      | _ => (whole, count, 0, rest)
    if total = 0 then none
    else (readExponent? rest).map fun e => Binary64.ofDecimal m (e - places)

/-- The number a text denotes. -/
def readNumber? (cs : List Char) : Option Binary64 :=
  match strip cs with
  | '-' :: rest => (readUnsigned? rest).map Binary64.negate
  | '+' :: rest => readUnsigned? rest
  | rest => readUnsigned? rest

/-! ### Writing -/

/-- The decimal places at which a number of digits reaches, for a number between two powers of
ten. -/
def firstPower (num den : Nat) : Int :=
  let guess : Int := ((num.log2 : Int) - den.log2) * 30103 / 100000
  -- the power of ten below the number, from an estimate that is off by two at most
  let below := fun (k : Int) =>
    if 0 ≤ k then decide (den * Nat.pow 10 k.toNat ≤ num)
    else decide (den ≤ num * Nat.pow 10 (-k).toNat)
  if below (guess + 2) then guess + 2
  else if below (guess + 1) then guess + 1
  else if below guess then guess
  else if below (guess - 1) then guess - 1
  else guess - 2

/-- The two neighbours of a number among the whole multiples of a power of ten, the nearer one
first; an even one of two that are as near. -/
def neighbours (num den : Nat) (power : Int) : List Nat :=
  let (n, d) :=
    if 0 ≤ power then (num, den * Nat.pow 10 power.toNat)
    else (num * Nat.pow 10 (-power).toNat, den)
  let q := n / d
  let twice := 2 * (n % d)
  if twice < d || (twice == d && q % 2 == 0) then [q, q + 1] else [q + 1, q]

/-- The fewest digits that read back as a number, and the power of ten of the last one. -/
def shortestDigits (v : Binary64) (num den : Nat) : Nat × Int :=
  let first := firstPower num den
  let found := (List.range 17).findSome? fun (k : Nat) =>
    let power := first - (k : Int)
    ((neighbours num den power).find? fun m => Binary64.ofDecimal m power == v).map
      fun m => (m, power)
  found.getD (num, 0)

/-- Digits without zeros at the end, and the power of ten of the last one. -/
def dropZeros : Nat → Nat → Int → Nat × Int
  | 0, m, power => (m, power)
  | fuel + 1, m, power =>
    if m % 10 = 0 && m ≠ 0 then dropZeros fuel (m / 10) (power + 1) else (m, power)

/-- The text of digits with a power of ten: with a point from a ten-thousandth up to sixteen
digits before the point, else with an exponent of two digits at least. -/
def layoutDigits (m : Nat) (power : Int) : String :=
  let (m, power) := dropZeros 20 m power
  let ds := (Nat.toDigits 10 m)
  let point : Int := ds.length + power
  if -4 < point && point ≤ 16 then
    if point ≤ 0 then
      "0." ++ String.ofList (List.replicate (-point).toNat '0' ++ ds)
    else if power < 0 then
      String.ofList (ds.take point.toNat) ++ "." ++ String.ofList (ds.drop point.toNat)
    else String.ofList (ds ++ List.replicate power.toNat '0') ++ ".0"
  else
    let e := point - 1
    let es := Nat.toDigits 10 e.natAbs
    String.ofList (ds.take 1 ++ (if ds.length = 1 then [] else '.' :: ds.drop 1) ++
      ['e', if e < 0 then '-' else '+'] ++ List.replicate (2 - es.length) '0' ++ es)

/-- The text of a number. -/
def numberText : Binary64 → String
  | .nan => "nan"
  | .infinite negative => if negative then "-inf" else "inf"
  | .finite negative m e =>
    (if negative then "-" else "") ++
      if m = 0 then "0.0"
      else
        let v := Binary64.finite false m e
        let (digits, power) := shortestDigits v v.ratio.1.natAbs v.ratio.2
        layoutDigits digits power

end Text

end Preflight
