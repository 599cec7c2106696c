import Preflight.Proofs.Number.Rounding

/-!
# Rounding keeps simple quotients apart

Two quotients that differ do so by at least one over the product of their divisors. If that is four
units of the grid of the smaller one, there is a number of fifty-three binary digits between the
smaller one, rounded, and the greater one; this number is kept by rounding, so the two are still
apart when they are rounded.

## Main results

* `Binary64.rounded_of_digits`: what has no more than fifty-three digits is kept.
* `Binary64.rounded_lt_rounded_iff`: rounding neither merges such quotients nor turns them around.
-/

namespace Preflight.Binary64

variable {num den a b : Nat}

/-! ### Numbers that are kept -/

/-- **What is kept.** A quotient that is a number of fifty-three binary digits is not changed by
rounding. -/
theorem rounded_of_digits (hden : 0 < den) {k : Nat} (hk : k < 2 ^ 53) {e : Int}
    (he : minExponent ≤ e) (h : (num / den : ℚ) = k * 2 ^ e) : rounded num den = num / den := by
  rcases Nat.eq_zero_or_pos num with rfl | hnum
  · rw [rounded_zero, Nat.cast_zero, zero_div]
  have hfloor : floorLog2 num den < e + 53 := by
    refine floorLog2_lt hnum hden ?_
    rw [h, add_comm, zpow_add₀ two_ne_zero]
    gcongr
    exact_mod_cast hk
  have hexponent : quotientExponent num den ≤ e := by
    rw [quotientExponent]
    omega
  obtain ⟨i, hi⟩ := Int.eq_ofNat_of_zero_le (Int.sub_nonneg.mpr hexponent)
  have hsplit : (2 : ℚ) ^ e = 2 ^ i * 2 ^ quotientExponent num den := by
    rw [← zpow_natCast, ← zpow_add₀ two_ne_zero, ← hi, sub_add_cancel]
  obtain ⟨n, d, hd, hunits, hsignificand⟩ := exists_significand num hden
  have hpower : (2 : ℚ) ^ quotientExponent num den ≠ 0 := by positivity
  -- on the grid of the quotient it is a whole number of units
  have hwhole : n = k * 2 ^ i * d := by
    have hd' : (d : ℚ) ≠ 0 := by exact_mod_cast hd.ne'
    rw [h, hsplit, ← mul_assoc, mul_div_cancel_right₀ _ hpower, div_eq_iff hd'] at hunits
    exact_mod_cast hunits
  have hkept : roundDiv n d = k * 2 ^ i :=
    Nat.le_antisymm (roundDiv_le hd hwhole.le) (le_roundDiv hd hwhole.ge)
  rw [rounded_eq hnum, hsignificand, hkept, h, hsplit]
  push_cast
  ring

theorem rounded_natCast {n : Nat} (h : n < 2 ^ 53) : rounded n 1 = n := by
  have hkept := @rounded_of_digits n 1 Nat.one_pos n h 0 (by decide) (by simp)
  rwa [Nat.cast_one, div_one] at hkept

/-- Equal quotients are rounded alike. -/
theorem rounded_congr (hden : 0 < den) (hb : 0 < b) (h : num * b = a * den) :
    rounded num den = rounded a b :=
  le_antisymm (rounded_mono hden hb h.le) (rounded_mono hb hden h.ge)

/-! ### Quotients that stay apart -/

/-- No more than half is added. -/
theorem roundDiv_mul_le (hden : 0 < den) : 2 * roundDiv num den * den ≤ 2 * num + den := by
  rcases h : roundDiv num den with _ | r
  · omega
  · have hnot : ¬roundDiv num den ≤ r := by omega
    rw [roundDiv_le_iff hden, not_or, Nat.not_lt] at hnot
    calc 2 * (r + 1) * den = (2 * r + 1) * den + den := by ring
      _ ≤ 2 * num + den := Nat.add_le_add_right hnot.1 den

/-- A rounded quotient is above the quotient by half a unit of its grid at most. -/
theorem significand_mul_le (hden : 0 < den) :
    (significand num den : ℚ) * 2 ^ quotientExponent num den ≤
      num / den + 2 ^ quotientExponent num den / 2 := by
  obtain ⟨n, d, hd, hunits, hsignificand⟩ := exists_significand num hden
  have hpos : (0 : ℚ) < d := by exact_mod_cast hd
  have hpower : (0 : ℚ) < 2 ^ quotientExponent num den := by positivity
  have hle : (2 * roundDiv n d * d : ℚ) ≤ 2 * n + d := by exact_mod_cast roundDiv_mul_le hd
  have hround : (roundDiv n d : ℚ) ≤ n / d + 1 / 2 := by
    rw [← mul_le_mul_iff_left₀ hpos, add_mul, div_mul_cancel₀ _ hpos.ne']
    linarith
  rw [hunits] at hround
  calc (significand num den : ℚ) * 2 ^ quotientExponent num den
      ≤ (num / den / 2 ^ quotientExponent num den + 1 / 2) * 2 ^ quotientExponent num den := by
        rw [hsignificand]
        gcongr
    _ = num / den + 2 ^ quotientExponent num den / 2 := by
        rw [add_mul, div_mul_cancel₀ _ hpower.ne']
        ring

/-- A quotient with a small divisor is no smallest number. -/
theorem minExponent_lt_quotientExponent (ha : 0 < a) (hb : 0 < b) (hsimple : b ≤ 2 ^ 50) :
    minExponent < quotientExponent a b := by
  have hbpos : (0 : ℚ) < b := by exact_mod_cast hb
  have hquotient : (2 : ℚ) ^ (-50 : Int) ≤ a / b := by
    rw [zpow_neg, ← one_div, div_le_div_iff₀ (by positivity) hbpos]
    exact_mod_cast Nat.mul_le_mul ha hsimple
  have hfloor : -50 < floorLog2 a b + 1 :=
    (zpow_lt_zpow_iff_right₀ one_lt_two).mp (lt_of_le_of_lt hquotient (floorLog2_spec ha hb).2)
  rw [quotientExponent, minExponent]
  omega

/-- A quotient with a small divisor is many units of its grid. -/
theorem unit_le (ha : 0 < a) (hb : 0 < b) (hsimple : b ≤ 2 ^ 50) :
    (2 : ℚ) ^ 52 * 2 ^ quotientExponent a b ≤ a / b := by
  have hnormal := minExponent_lt_quotientExponent ha hb hsimple
  refine le_trans ?_ (floorLog2_spec ha hb).1
  rw [← zpow_natCast, ← zpow_add₀ two_ne_zero]
  refine zpow_le_zpow_right₀ one_le_two ?_
  rw [quotientExponent] at hnormal ⊢
  omega

/-- A quotient is so far below another that four units of its grid fit in between. -/
theorem add_units_le (ha : 0 < a) (hb : 0 < b) (hden : 0 < den)
    (hsimple : b ≤ 2 ^ 50) (hsmall : a * den < 2 ^ 50) (h : a * den < num * b) :
    (a / b + 4 * 2 ^ quotientExponent a b : ℚ) ≤ num / den := by
  have hbpos : (0 : ℚ) < b := by exact_mod_cast hb
  have hdenpos : (0 : ℚ) < den := by exact_mod_cast hden
  have hunit := unit_le ha hb hsimple
  have hfour : (4 * 2 ^ quotientExponent a b : ℚ) ≤ 1 / (b * den) := by
    have hsmall' : (a * den : ℚ) ≤ 2 ^ 50 := by exact_mod_cast hsmall.le
    calc (4 * 2 ^ quotientExponent a b : ℚ) ≤ a / b / 2 ^ 50 := by
          rw [le_div_iff₀ (by positivity)]
          linarith
      _ ≤ 1 / (b * den) := by
          rw [div_div, div_le_div_iff₀ (by positivity) (by positivity), one_mul]
          calc (a * (b * den) : ℚ) = b * (a * den) := by ring
            _ ≤ b * 2 ^ 50 := by gcongr
  have hgap : (a * den + 1 : ℚ) ≤ num * b := by exact_mod_cast h
  calc (a / b + 4 * 2 ^ quotientExponent a b : ℚ) ≤ a / b + 1 / (b * den) := by gcongr
    _ = (a * den + 1) / (b * den) := by rw [add_div, mul_div_mul_right _ _ hdenpos.ne']
    _ ≤ num * b / (b * den) := by gcongr
    _ = num / den := by rw [mul_comm (num : ℚ), mul_div_mul_left _ _ hbpos.ne']

/-- **Quotients that stay apart.** The even multiple of the unit above the smaller one, rounded, is
below the greater one, and rounding keeps it. -/
theorem rounded_lt_rounded (ha : 0 < a) (hb : 0 < b) (hden : 0 < den) (hsimple : b ≤ 2 ^ 50)
    (hsmall : a * den < 2 ^ 50) (h : a * den < num * b) : rounded a b < rounded num den := by
  have hnormal := minExponent_lt_quotientExponent ha hb hsimple
  let q := quotientExponent a b
  let k := significand a b / 2 + 1
  have hpower : (0 : ℚ) < 2 ^ q := by positivity
  have hk : k < 2 ^ 53 := by
    have := significand_le ha hb
    omega
  obtain ⟨hd, hbetween⟩ := scaled_spec k Nat.one_pos (-(q + 1))
  generalize (scaled k 1 (-(q + 1))).1 = n, (scaled k 1 (-(q + 1))).2 = d at hd hbetween
  have hvalue : (n / d : ℚ) = k * 2 ^ (q + 1) := by
    rw [hbetween, Nat.cast_one, div_one, zpow_neg, div_inv_eq_mul]
  have hdouble : (k * 2 ^ (q + 1) : ℚ) = (2 * k : Nat) * 2 ^ q := by
    rw [zpow_add_one₀ two_ne_zero]
    push_cast
    ring
  have hkept : rounded n d = n / d := rounded_of_digits hd hk (by omega) hvalue
  have habove : rounded a b < rounded n d := by
    rw [hkept, hvalue, hdouble, rounded_eq ha]
    have hless : significand a b < 2 * k := by omega
    gcongr
  refine lt_of_lt_of_le habove (rounded_mono hd hden ?_)
  have hbelow : (n / d : ℚ) ≤ num / den := by
    have hle : ((2 * k : Nat) : ℚ) ≤ significand a b + 2 := by
      have : 2 * k ≤ significand a b + 2 := by omega
      exact_mod_cast this
    have hround := @significand_mul_le a b hb
    calc (n / d : ℚ) = (2 * k : Nat) * 2 ^ q := by rw [hvalue, hdouble]
      _ ≤ (significand a b + 2) * 2 ^ q := by gcongr
      _ = significand a b * 2 ^ q + 2 * 2 ^ q := by ring
      _ ≤ a / b + 4 * 2 ^ q := by linarith
      _ ≤ num / den := add_units_le ha hb hden hsimple hsmall h
  have hdpos : (0 : ℚ) < d := by exact_mod_cast hd
  have hdenpos : (0 : ℚ) < den := by exact_mod_cast hden
  rw [div_le_div_iff₀ hdpos hdenpos] at hbelow
  exact_mod_cast hbelow

/-- **Rounding decides as the quotients do**: a quotient exceeds another just if it does when both
are rounded. -/
theorem rounded_lt_rounded_iff (ha : 0 < a) (hb : 0 < b) (hden : 0 < den) (hsimple : b ≤ 2 ^ 50)
    (hsmall : a * den < num * b → a * den < 2 ^ 50) :
    rounded a b < rounded num den ↔ a * den < num * b := by
  refine ⟨fun hlt => Nat.lt_of_not_le fun hle => ?_, fun h =>
    rounded_lt_rounded ha hb hden hsimple (hsmall h) h⟩
  exact absurd (rounded_mono hden hb hle) (not_le.mpr hlt)

/-- A whole number is what it stands for. -/
theorem toRat_ofInt (n : Int) : (ofInt n).toRat = n := by
  rw [ofInt, toRat, zpow_zero, mul_one]
  norm_cast
  rw [signed]
  split
  · next h =>
    have := of_decide_eq_true h
    omega
  · next h =>
    have := of_decide_eq_false (Bool.eq_false_iff.mpr h)
    omega

end Preflight.Binary64
