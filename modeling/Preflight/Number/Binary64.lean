/-!
# Rounded quotients

A quotient of whole numbers is kept to fifty-three binary digits, as a number of sixty-four bits
holds it: rounded to the nearest, a tie to the even neighbour. Comparisons are exact.

## Main definitions

* `Binary64`: the numbers of sixty-four bits.
* `Binary64.ofQuotient?`: a quotient, rounded; none where it is too large.
* `Binary64.exceeds`: the order.
* `Binary64.bits`: the sixty-four bits.
-/

namespace Preflight

/-- A number of sixty-four bits: a significand times a power of two, an infinity, or none. -/
inductive Binary64 where
  | finite (negative : Bool) (significand : Nat) (exponent : Int)
  | infinite (negative : Bool)
  | nan
  deriving DecidableEq, Repr, Inhabited

namespace Binary64

/-- The smallest exponent. -/
def minExponent : Int := -1074

/-- The largest exponent. -/
def maxExponent : Int := 971

/-- A quotient rounded to a whole number, a tie to the even one. -/
def roundDiv (num den : Nat) : Nat :=
  let q := num / den
  let twice := 2 * (num % den)
  if den < twice || (twice == den && q % 2 == 1) then q + 1 else q

/-- A number times a power of two, as a quotient of whole numbers. -/
def scaled (num den : Nat) (exponent : Int) : Nat × Nat :=
  if 0 ≤ exponent then (num, den * Nat.pow 2 exponent.toNat)
  else (num * Nat.pow 2 (-exponent).toNat, den)

/-- The power of two just below a quotient or equal to it. -/
def floorLog2 (num den : Nat) : Int :=
  let guess : Int := (num.log2 : Int) - den.log2
  let (n, d) := scaled num den guess
  if n < d then guess - 1 else guess

/-- The exponent at which a quotient has fifty-three binary digits, or the smallest one. -/
def quotientExponent (num den : Nat) : Int := max minExponent (floorLog2 num den - 52)

/-- The significand and the exponent of a quotient, rounded. -/
def roundQuotient (num den : Nat) : Nat × Int :=
  if num = 0 then (0, minExponent)
  else
    let e := quotientExponent num den
    let (n, d) := scaled num den e
    let m := roundDiv n d
    if m = Nat.pow 2 53 then (Nat.pow 2 52, e + 1) else (m, e)

/-- A quotient of whole numbers, rounded; none where it is too large. The divisor is not
zero. -/
def ofQuotient? (num den : Int) : Option Binary64 :=
  let (m, e) := roundQuotient num.natAbs den.natAbs
  if maxExponent < e then none else some (.finite ((num < 0) != (den < 0)) m e)

/-- A whole number, exactly. -/
def ofInt (n : Int) : Binary64 := .finite (n < 0) n.natAbs 0

/-- The significand with its sign. -/
def signed (negative : Bool) (m : Nat) : Int := if negative then -(m : Int) else m

/-- One number is greater than another. -/
def exceeds : Binary64 → Binary64 → Bool
  | nan, _ | _, nan => false
  | infinite negative, infinite other => !negative && other
  | infinite negative, finite .. => !negative
  | finite .., infinite negative => negative
  | finite s m e, finite t n f =>
    let low := min e f
    signed t n * (Nat.pow 2 (f - low).toNat : Int) < signed s m * (Nat.pow 2 (e - low).toNat : Int)

/-- The bit of the sign. -/
def signBit (negative : Bool) : Nat := if negative then Nat.pow 2 63 else 0

/-- The sixty-four bits of a number. -/
def bits : Binary64 → Nat
  | nan => 0x7FF8000000000000
  | infinite negative => signBit negative + 0x7FF0000000000000
  | finite negative m e =>
    signBit negative +
      (if m < Nat.pow 2 52 then m
       else (e - minExponent + 1).toNat * Nat.pow 2 52 + (m - Nat.pow 2 52))

end Binary64

end Preflight
