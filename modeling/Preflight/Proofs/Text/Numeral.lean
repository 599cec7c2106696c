import Preflight.Text.Numeral

/-!
# Reading back whole numbers

A whole number that is not negative is read back from its digits, unless there are too many of them.

## Main results

* `digitValues?_of_isDigit`: a run of digits.
* `notMem_toString`: what is not in the text of a number.
* `readInt?_toString`: a number is read back from its text.
-/

namespace Preflight.Text

variable {cs : List Char}

/-- A text without blanks has none at its ends. -/
theorem strip_eq_self (h : ∀ c ∈ cs, isBlank c = false) : strip cs = cs := by
  have hstart {cs : List Char} (h : ∀ c ∈ cs, isBlank c = false) : cs.dropWhile isBlank = cs := by
    cases cs with
    | nil => rfl
    | cons c rest => exact List.dropWhile_cons_of_neg (by simp [h c (List.mem_cons_self ..)])
  rw [strip, trimStart, hstart h, trimEnd, hstart fun c hc => h c (List.mem_reverse.mp hc),
    List.reverse_reverse]

/-! ### Digits -/

theorem toNat_of_isDigit {c : Char} (h : c.isDigit = true) : 48 ≤ c.toNat ∧ c.toNat < 58 := by
  simpa [Char.isDigit, UInt32.le_iff_toNat_le, Nat.lt_succ_iff] using h

theorem isBlank_of_isDigit {c : Char} (h : c.isDigit = true) : isBlank c = false := by
  obtain ⟨hlow, hhigh⟩ := toNat_of_isDigit h
  have hall : ∀ n < 58, 48 ≤ n → isBlank (Char.ofNat n) = false := by decide
  rw [← Char.ofNat_toNat c]
  exact hall c.toNat hhigh hlow

theorem digitValue?_of_isDigit {c : Char} (h : c.isDigit = true) :
    digitValue? c = some (c.toNat - 48) := by
  obtain ⟨hlow, hhigh⟩ := toNat_of_isDigit h
  rw [digitValue?, digitZeros, List.find?_cons_of_pos, Option.map_some]
  rw [Bool.and_eq_true, decide_eq_true_eq, decide_eq_true_eq]
  omega

theorem digitValues?_of_isDigit (h : ∀ c ∈ cs, c.isDigit = true) {afterDigit : Bool}
    (hne : afterDigit = true ∨ cs ≠ []) :
    digitValues? afterDigit cs = some (cs.map fun c => c.toNat - 48) := by
  induction cs generalizing afterDigit with
  | nil =>
    obtain rfl := hne.resolve_right (fun hne => hne rfl)
    rfl
  | cons c rest ih =>
    obtain ⟨hc, hrest⟩ := List.forall_mem_cons.mp h
    have hunderscore : c ≠ '_' := by
      rintro rfl
      exact absurd hc (by decide)
    rw [digitValues?, if_neg hunderscore, digitValue?_of_isDigit hc, ih hrest (Or.inl rfl)]
    rfl

theorem ofDigits_map (cs : List Char) :
    ofDigits 10 (cs.map fun c => c.toNat - 48) = Nat.ofDigitChars 10 cs 0 := by
  rw [ofDigits, List.foldl_map, Nat.ofDigitChars]
  congr 1
  funext n c
  rw [Nat.mul_comm]
  rfl

theorem toList_repr (n : Nat) : (Nat.repr n).toList = Nat.toDigits 10 n := by
  rw [Nat.repr_eq_ofList_toDigits, String.toList_ofList]

theorem isDigit_of_mem_repr {n : Nat} {c : Char} (h : c ∈ (Nat.repr n).toList) :
    c.isDigit = true := by
  rw [toList_repr] at h
  exact Nat.isDigit_of_mem_toDigits (by decide) (by decide) h

/-- A whole number is written in digits, behind a sign if it is negative. -/
theorem notMem_toString {c : Char} (hdigit : c.isDigit = false) (hsign : c ≠ '-') (n : Int) :
    c ∉ (toString n).toList := by
  have hdigits (n : Nat) : c ∉ (Nat.repr n).toList := fun h => by
    rw [isDigit_of_mem_repr h] at hdigit
    cases hdigit
  cases n with
  | ofNat n => exact hdigits n
  | negSucc n =>
    have htext : toString (Int.negSucc n) = "-" ++ Nat.repr (n + 1) := rfl
    rw [htext, String.toList_append, List.mem_append, not_or]
    exact ⟨List.not_mem_cons_of_ne_of_not_mem hsign List.not_mem_nil, hdigits (n + 1)⟩

theorem length_toString (n : Nat) : (toString n).length = (Nat.toDigits 10 n).length := by
  rw [← String.length_toList]
  exact congrArg List.length (toList_repr n)

/-- **Reading back.** A number is read back from its text, unless it has too many digits. -/
theorem readInt?_toString (n : Nat) :
    readInt? (toString n).toList =
      if (toString n).length ≤ digitLimit then some (n : Int) else none := by
  have htext : (toString n).toList = Nat.toDigits 10 n := toList_repr n
  have hdigits : ∀ c ∈ Nat.toDigits 10 n, c.isDigit = true := fun c hc =>
    isDigit_of_mem_repr (htext ▸ hc)
  have hread : readDigits? (Nat.toDigits 10 n) =
      if (Nat.toDigits 10 n).length ≤ digitLimit then some n else none := by
    rw [readDigits?, digitValues?_of_isDigit hdigits (Or.inr Nat.toDigits_ne_nil)]
    dsimp only
    rw [List.length_map, ofDigits_map, Nat.ofDigitChars_toDigits (by decide) (by decide)]
  rw [length_toString, htext, readInt?, strip_eq_self fun c hc => isBlank_of_isDigit (hdigits c hc)]
  split
  · next rest heq =>
    exact absurd (hdigits '-' (heq ▸ List.mem_cons_self ..)) (by decide)
  · next rest heq =>
    exact absurd (hdigits '+' (heq ▸ List.mem_cons_self ..)) (by decide)
  · rw [hread]
    split
    · rfl
    · rfl

end Preflight.Text
