import Mathlib.Algebra.Order.Field.Power
import Mathlib.Data.Rat.Cast.Order
import Mathlib.Tactic.Linarith
import Mathlib.Tactic.Positivity
import Mathlib.Tactic.Ring
import Preflight.Number.Binary64

/-!
# Rounding keeps the order

A quotient is rounded on the grid of the numbers with fifty-three binary digits below the next power
of two, and this grid depends on the quotient alone. On one grid a greater quotient is not rounded
to a smaller number; on a coarser grid what is rounded lies above all of the finer one, because its
significand has all of its digits. So rounding never turns the order of two quotients around.

## Main definitions

* `Binary64.rounded`: a rounded quotient as a number.
* `Binary64.toRat`: the number that a finite number of sixty-four bits stands for.

## Main results

* `Binary64.roundDiv_le_iff`: to which whole numbers a quotient is rounded.
* `Binary64.rounded_mono`: rounding keeps the order.
* `Binary64.ofQuotient?_natCast`: a quotient that is not too large is rounded.
* `Binary64.exceeds_iff`: the order of finite numbers is that of what they stand for.
-/

namespace Preflight.Binary64

variable {num den num' den' : Nat}

/-! ### Whole numbers -/

/-- **To which whole numbers a quotient is rounded**: to none above a number if it is nearer to this
one than to the next, or as near and this one is even. -/
theorem roundDiv_le_iff (hden : 0 < den) {r : Nat} :
    roundDiv num den ≤ r ↔
      2 * num < (2 * r + 1) * den ∨ 2 * num = (2 * r + 1) * den ∧ r % 2 = 0 := by
  have hsplit : den * (num / den) + num % den = num := Nat.div_add_mod num den
  have hmod : num % den < den := Nat.mod_lt num hden
  have hproduct : (2 * r + 1) * den = 2 * (den * r) + den := by ring
  rw [roundDiv, hproduct]
  generalize num / den = q at hsplit ⊢
  generalize num % den = t at hsplit hmod ⊢
  have hcondition : (decide (den < 2 * t) || (2 * t == den && q % 2 == 1)) = true ↔
      den < 2 * t ∨ 2 * t = den ∧ q % 2 = 1 := by
    rw [Bool.or_eq_true, decide_eq_true_eq, Bool.and_eq_true, beq_iff_eq, beq_iff_eq]
  rcases Nat.lt_trichotomy r q with hr | rfl | hr
  · have hle : den * (r + 1) ≤ den * q := Nat.mul_le_mul_left den hr
    rw [Nat.mul_add, Nat.mul_one] at hle
    split <;> omega
  · split
    · next h =>
      rw [hcondition] at h
      omega
    · next h =>
      rw [hcondition] at h
      omega
  · have hle : den * (q + 1) ≤ den * r := Nat.mul_le_mul_left den hr
    rw [Nat.mul_add, Nat.mul_one] at hle
    split <;> omega

/-- On one grid rounding keeps the order. -/
theorem roundDiv_mono (hden : 0 < den) (hden' : 0 < den') (h : num * den' ≤ num' * den) :
    roundDiv num den ≤ roundDiv num' den' := by
  rw [roundDiv_le_iff hden]
  have hle := (@roundDiv_le_iff num' den' hden' _).mp (Nat.le_refl _)
  generalize roundDiv num' den' = r at hle ⊢
  have hscaled : 2 * num * den' ≤ 2 * num' * den := by
    rw [Nat.mul_assoc, Nat.mul_assoc]
    exact Nat.mul_le_mul_left 2 h
  have hswap : (2 * r + 1) * den' * den = (2 * r + 1) * den * den' := by ring
  rcases hle with hlt | ⟨heq, heven⟩
  · refine Or.inl (Nat.lt_of_mul_lt_mul_right (a := den') ?_)
    calc 2 * num * den' ≤ 2 * num' * den := hscaled
      _ < (2 * r + 1) * den' * den := Nat.mul_lt_mul_of_pos_right hlt hden
      _ = (2 * r + 1) * den * den' := hswap
  · have hnear : 2 * num ≤ (2 * r + 1) * den := by
      refine Nat.le_of_mul_le_mul_right ?_ hden'
      rwa [heq, hswap] at hscaled
    exact (Nat.lt_or_eq_of_le hnear).imp_right fun h => ⟨h, heven⟩

theorem roundDiv_one (n : Nat) : roundDiv n 1 = n := by
  rw [roundDiv, Nat.div_one, Nat.mod_one]
  rfl

theorem roundDiv_le (hden : 0 < den) {n : Nat} (h : num ≤ n * den) : roundDiv num den ≤ n := by
  have hle := @roundDiv_mono num den n 1 hden Nat.one_pos (by rwa [Nat.mul_one])
  rwa [roundDiv_one] at hle

theorem le_roundDiv (hden : 0 < den) {n : Nat} (h : n * den ≤ num) : n ≤ roundDiv num den := by
  have hle := @roundDiv_mono n 1 num den Nat.one_pos hden (by rwa [Nat.mul_one])
  rwa [roundDiv_one] at hle

/-! ### The grid of a quotient -/

/-- A quotient as a number of units, for a power of two as the unit. -/
theorem scaled_spec (num : Nat) (hden : 0 < den) (e : Int) :
    0 < (scaled num den e).2 ∧
      ((scaled num den e).1 : ℚ) / (scaled num den e).2 = num / den / 2 ^ e := by
  rw [scaled]
  split
  · next h =>
    obtain ⟨n, rfl⟩ := Int.eq_ofNat_of_zero_le h
    refine ⟨Nat.mul_pos hden (Nat.two_pow_pos n), ?_⟩
    dsimp only
    rw [Int.toNat_natCast, Nat.pow_eq, zpow_natCast, Nat.cast_mul, Nat.cast_pow, Nat.cast_ofNat,
      div_div]
  · next h =>
    obtain ⟨n, hn⟩ := Int.eq_ofNat_of_zero_le (a := -e) (by omega)
    obtain rfl : e = -n := by omega
    refine ⟨hden, ?_⟩
    dsimp only
    rw [Int.neg_neg, Int.toNat_natCast, Nat.pow_eq, zpow_neg, zpow_natCast, Nat.cast_mul,
      Nat.cast_pow, Nat.cast_ofNat, div_inv_eq_mul, mul_div_right_comm]

/-- **The power of two just below a quotient**, and the next one above it. -/
theorem floorLog2_spec (hnum : 0 < num) (hden : 0 < den) :
    (2 : ℚ) ^ floorLog2 num den ≤ num / den ∧ (num / den : ℚ) < 2 ^ (floorLog2 num den + 1) := by
  have hnumLow : (2 : ℚ) ^ (num.log2 : Int) ≤ num := by
    rw [zpow_natCast]
    exact_mod_cast Nat.log2_self_le hnum.ne'
  have hnumHigh : (num : ℚ) < 2 ^ (num.log2 + 1 : Int) := by
    exact_mod_cast Nat.lt_log2_self (n := num)
  have hdenLow : (2 : ℚ) ^ (den.log2 : Int) ≤ den := by
    rw [zpow_natCast]
    exact_mod_cast Nat.log2_self_le hden.ne'
  have hdenHigh : (den : ℚ) < 2 ^ (den.log2 + 1 : Int) := by
    exact_mod_cast Nat.lt_log2_self (n := den)
  have hpos : (0 : ℚ) < den := by exact_mod_cast hden
  have hlow : (2 : ℚ) ^ ((num.log2 : Int) - den.log2 - 1) ≤ num / den := by
    rw [le_div_iff₀ hpos]
    calc (2 : ℚ) ^ ((num.log2 : Int) - den.log2 - 1) * den
        ≤ 2 ^ ((num.log2 : Int) - den.log2 - 1) * 2 ^ (den.log2 + 1 : Int) := by gcongr
      _ = 2 ^ (num.log2 : Int) := by rw [← zpow_add₀ two_ne_zero]; congr 1; ring
      _ ≤ num := hnumLow
  have hhigh : (num / den : ℚ) < 2 ^ ((num.log2 : Int) - den.log2 + 1) := by
    rw [div_lt_iff₀ hpos]
    calc (num : ℚ) < 2 ^ (num.log2 + 1 : Int) := hnumHigh
      _ = 2 ^ ((num.log2 : Int) - den.log2 + 1) * 2 ^ (den.log2 : Int) := by
        rw [← zpow_add₀ two_ne_zero]; congr 1; ring
      _ ≤ 2 ^ ((num.log2 : Int) - den.log2 + 1) * den := by gcongr
  obtain ⟨hunits, hscaled⟩ := scaled_spec num hden ((num.log2 : Int) - den.log2)
  have hunits' : (0 : ℚ) < (scaled num den ((num.log2 : Int) - den.log2)).2 := by
    exact_mod_cast hunits
  have hpower : (0 : ℚ) < 2 ^ ((num.log2 : Int) - den.log2) := by positivity
  rw [floorLog2]
  dsimp only
  split
  · next h =>
    rw [sub_add_cancel]
    refine ⟨hlow, ?_⟩
    rw [← div_lt_one hpower, ← hscaled, div_lt_one hunits']
    exact_mod_cast h
  · next h =>
    refine ⟨?_, hhigh⟩
    rw [← one_le_div hpower, ← hscaled, one_le_div hunits']
    exact_mod_cast Nat.not_lt.mp h

/-- A quotient below a power of two has its floor below it. -/
theorem floorLog2_lt (hnum : 0 < num) (hden : 0 < den) {k : Int} (h : (num / den : ℚ) < 2 ^ k) :
    floorLog2 num den < k := by
  have hlow := (floorLog2_spec hnum hden).1
  exact (zpow_lt_zpow_iff_right₀ one_lt_two).mp (lt_of_le_of_lt hlow h)

/-- A greater quotient has no smaller floor. -/
theorem floorLog2_mono (hnum : 0 < num) (hden : 0 < den) (hnum' : 0 < num') (hden' : 0 < den')
    (h : (num / den : ℚ) ≤ num' / den') : floorLog2 num den ≤ floorLog2 num' den' :=
  Int.lt_add_one_iff.mp
    (floorLog2_lt hnum hden (lt_of_le_of_lt h (floorLog2_spec hnum' hden').2))

/-! ### Rounded quotients -/

/-- The significand of a quotient on its grid, before all of its digits are used up. -/
def significand (num den : Nat) : Nat :=
  let (n, d) := scaled num den (quotientExponent num den)
  roundDiv n d

/-- A rounded quotient as a number. -/
def rounded (num den : Nat) : ℚ := (roundQuotient num den).1 * 2 ^ (roundQuotient num den).2

theorem rounded_zero (den : Nat) : rounded 0 den = 0 := by
  rw [rounded, roundQuotient, if_pos rfl, Nat.cast_zero, zero_mul]

theorem roundQuotient_eq (hnum : 0 < num) (den : Nat) :
    roundQuotient num den =
      if significand num den = Nat.pow 2 53 then (Nat.pow 2 52, quotientExponent num den + 1)
      else (significand num den, quotientExponent num den) := by
  rw [roundQuotient, if_neg hnum.ne']
  rfl

/-- A significand that has used up its digits is that of the next grid. -/
theorem rounded_eq (hnum : 0 < num) (den : Nat) :
    rounded num den = significand num den * 2 ^ quotientExponent num den := by
  rw [rounded, roundQuotient_eq hnum]
  split
  · next h =>
    rw [h, Nat.pow_eq, Nat.pow_eq, Nat.cast_pow, Nat.cast_pow, Nat.cast_ofNat,
      zpow_add_one₀ two_ne_zero]
    ring
  · rfl

/-- A quotient as a number of the units of its grid. -/
theorem exists_significand (num : Nat) (hden : 0 < den) :
    ∃ n d : Nat, 0 < d ∧ (n / d : ℚ) = num / den / 2 ^ quotientExponent num den ∧
      significand num den = roundDiv n d :=
  ⟨_, _, (scaled_spec num hden _).1, (scaled_spec num hden _).2, rfl⟩

/-- No more than fifty-three digits are used. -/
theorem significand_le (hnum : 0 < num) (hden : 0 < den) : significand num den ≤ 2 ^ 53 := by
  obtain ⟨n, d, hd, hunits, hsignificand⟩ := exists_significand num hden
  have hpos : (0 : ℚ) < d := by exact_mod_cast hd
  have hpower : (0 : ℚ) < 2 ^ quotientExponent num den := by positivity
  rw [hsignificand]
  refine roundDiv_le hd ?_
  have hle : (n / d : ℚ) ≤ 2 ^ (53 : Int) := by
    rw [hunits, div_le_iff₀ hpower, ← zpow_add₀ two_ne_zero]
    refine le_trans (floorLog2_spec hnum hden).2.le ?_
    refine zpow_le_zpow_right₀ one_le_two ?_
    rw [quotientExponent]
    omega
  rw [div_le_iff₀ hpos] at hle
  exact_mod_cast hle

/-- Above the smallest numbers all digits are used. -/
theorem le_significand (hnum : 0 < num) (hden : 0 < den)
    (h : minExponent < quotientExponent num den) : 2 ^ 52 ≤ significand num den := by
  obtain ⟨n, d, hd, hunits, hsignificand⟩ := exists_significand num hden
  have hpos : (0 : ℚ) < d := by exact_mod_cast hd
  have hpower : (0 : ℚ) < 2 ^ quotientExponent num den := by positivity
  rw [hsignificand]
  refine le_roundDiv hd ?_
  have hle : (2 ^ (52 : Int) : ℚ) ≤ n / d := by
    rw [hunits, le_div_iff₀ hpower, ← zpow_add₀ two_ne_zero]
    refine le_trans (zpow_le_zpow_right₀ one_le_two ?_) (floorLog2_spec hnum hden).1
    rw [quotientExponent] at h ⊢
    omega
  rw [le_div_iff₀ hpos] at hle
  exact_mod_cast hle

/-- **Rounding keeps the order.** -/
theorem rounded_mono (hden : 0 < den) (hden' : 0 < den') (h : num * den' ≤ num' * den) :
    rounded num den ≤ rounded num' den' := by
  rcases Nat.eq_zero_or_pos num with rfl | hnum
  · rw [rounded_zero, rounded]
    positivity
  have hnum' : 0 < num' :=
    Nat.pos_of_mul_pos_right (Nat.lt_of_lt_of_le (Nat.mul_pos hnum hden') h)
  have hpos : (0 : ℚ) < den := by exact_mod_cast hden
  have hpos' : (0 : ℚ) < den' := by exact_mod_cast hden'
  have hle : (num / den : ℚ) ≤ num' / den' := by
    rw [div_le_div_iff₀ hpos hpos']
    exact_mod_cast h
  have hexponent : quotientExponent num den ≤ quotientExponent num' den' := by
    have hfloor := floorLog2_mono hnum hden hnum' hden' hle
    rw [quotientExponent, quotientExponent]
    omega
  rw [rounded_eq hnum, rounded_eq hnum']
  rcases hexponent.eq_or_lt with hsame | hlt
  · -- one grid
    obtain ⟨n, d, hd, hunits, hsignificand⟩ := exists_significand num hden
    obtain ⟨n', d', hd', hunits', hsignificand'⟩ := exists_significand num' hden'
    have hdpos : (0 : ℚ) < d := by exact_mod_cast hd
    have hdpos' : (0 : ℚ) < d' := by exact_mod_cast hd'
    have hunitsLe : (n / d : ℚ) ≤ n' / d' := by
      rw [hunits, hunits', hsame]
      gcongr
    rw [div_le_div_iff₀ hdpos hdpos'] at hunitsLe
    have hsignificands : significand num den ≤ significand num' den' := by
      rw [hsignificand, hsignificand']
      exact roundDiv_mono hd hd' (by exact_mod_cast hunitsLe)
    rw [hsame]
    gcongr
  · -- the coarser grid starts where the finer one ends
    have hmin : minExponent < quotientExponent num' den' :=
      Int.lt_of_le_of_lt (le_max_left ..) hlt
    have hhigh : (significand num den : ℚ) ≤ 2 ^ (53 : Int) := by
      exact_mod_cast significand_le hnum hden
    have hlow : (2 : ℚ) ^ (52 : Int) ≤ significand num' den' := by
      exact_mod_cast le_significand hnum' hden' hmin
    calc (significand num den : ℚ) * 2 ^ quotientExponent num den
        ≤ 2 ^ (53 : Int) * 2 ^ quotientExponent num den := by gcongr
      _ ≤ 2 ^ (52 : Int) * 2 ^ quotientExponent num' den' := by
        rw [← zpow_add₀ two_ne_zero, ← zpow_add₀ two_ne_zero]
        exact zpow_le_zpow_right₀ one_le_two (by omega)
      _ ≤ significand num' den' * 2 ^ quotientExponent num' den' := by gcongr

/-! ### Numbers of sixty-four bits -/

/-- The number that a finite number of sixty-four bits stands for. -/
def toRat : Binary64 → ℚ
  | finite negative significand exponent => signed negative significand * 2 ^ exponent
  | infinite _ | nan => 0

/-- A number that is no infinity. -/
def IsFinite (v : Binary64) : Prop := ∃ negative significand exponent,
  v = finite negative significand exponent

theorem isFinite_ofInt (n : Int) : (ofInt n).IsFinite := ⟨_, _, _, rfl⟩

theorem isFinite_of_ofQuotient? {a b : Int} {v : Binary64} (h : ofQuotient? a b = some v) :
    v.IsFinite := by
  rw [ofQuotient?] at h
  dsimp only at h
  split at h
  · cases h
  · exact ⟨_, _, _, (Option.some.inj h).symm⟩

/-- **A quotient that is not too large is rounded.** -/
theorem ofQuotient?_natCast (hden : 0 < den) {k : Nat} (hk : k ≤ 1023)
    (h : num < Nat.pow 2 k * den) :
    ∃ v, ofQuotient? num den = some v ∧ v.toRat = rounded num den := by
  have hexponent : (roundQuotient num den).2 ≤ maxExponent := by
    rcases Nat.eq_zero_or_pos num with rfl | hnum
    · rw [roundQuotient, if_pos rfl]
      decide
    · have hpos : (0 : ℚ) < den := by exact_mod_cast hden
      have hfloor : floorLog2 num den < k := by
        refine floorLog2_lt hnum hden ?_
        rw [div_lt_iff₀ hpos, zpow_natCast]
        exact_mod_cast h
      have hquotient : quotientExponent num den < maxExponent := by
        rw [quotientExponent, minExponent, maxExponent]
        omega
      rw [roundQuotient_eq hnum]
      split
      · exact hquotient
      · exact hquotient.le
  have hsign : (decide ((num : Int) < 0) != decide ((den : Int) < 0)) = false := by
    rw [decide_eq_false (Int.not_lt.mpr (Int.natCast_nonneg num)),
      decide_eq_false (Int.not_lt.mpr (Int.natCast_nonneg den))]
    rfl
  refine ⟨finite false (roundQuotient num den).1 (roundQuotient num den).2, ?_, ?_⟩
  · rw [ofQuotient?, Int.natAbs_natCast, Int.natAbs_natCast, hsign]
    exact if_neg (Int.not_lt.mpr hexponent)
  · rw [toRat, rounded, signed, if_neg Bool.false_ne_true, Int.cast_natCast]

/-- **The order of finite numbers** is that of what they stand for. -/
theorem exceeds_iff {v c : Binary64} (hv : v.IsFinite) (hc : c.IsFinite) :
    v.exceeds c = true ↔ c.toRat < v.toRat := by
  obtain ⟨s, m, e, rfl⟩ := hv
  obtain ⟨t, n, f, rfl⟩ := hc
  have hunits : ∀ {k : Int}, min e f ≤ k →
      ((Nat.pow 2 (k - min e f).toNat : Nat) : ℚ) * 2 ^ min e f = 2 ^ k := by
    intro k hk
    rw [Nat.pow_eq, Nat.cast_pow, Nat.cast_ofNat, ← zpow_natCast, ← zpow_add₀ two_ne_zero,
      Int.toNat_of_nonneg (Int.sub_nonneg.mpr hk), sub_add_cancel]
  have hpower : (0 : ℚ) < 2 ^ min e f := by positivity
  rw [exceeds, decide_eq_true_eq, toRat, toRat, ← hunits (min_le_left e f),
    ← hunits (min_le_right e f), ← mul_assoc, ← mul_assoc, mul_lt_mul_iff_left₀ hpower]
  exact_mod_cast Iff.rfl

/-- What a number exceeds, a greater one exceeds. -/
theorem exceeds_of_le {v w c : Binary64} (hv : v.IsFinite) (hw : w.IsFinite) (hc : c.IsFinite)
    (h : v.toRat ≤ w.toRat) (hexceeds : v.exceeds c = true) : w.exceeds c = true := by
  rw [exceeds_iff hv hc] at hexceeds
  rw [exceeds_iff hw hc]
  exact lt_of_lt_of_le hexceeds h

end Preflight.Binary64
