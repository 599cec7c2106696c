import Preflight.Proofs.Text.Numeral
import Preflight.Text.LetterCase

/-!
# Texts without escape characters

Colours are set by sequences that start with the escape character. It is in none of the texts that
the program writes itself, numbers and digits included, and no letter has it as its capital form.

## Main definitions

* `EscapeFree`: a text without the escape character.

## Main results

* `intercalate_of_append`: what is kept when texts are joined.
* `escapeFree_append`, `EscapeFree.intercalate`: texts put together.
* `escapeFree_toString`, `EscapeFree.uppercase`: numbers and capital letters.
-/

namespace Preflight.Text

/-- The character that escape sequences start with. -/
def escapeChar : Char := '\x1b'

/-- A text does not hold the escape character. -/
def EscapeFree (s : String) : Prop := escapeChar ∉ s.toList

instance (s : String) : Decidable (EscapeFree s) :=
  inferInstanceAs (Decidable (escapeChar ∉ s.toList))

/-- A text by its characters. Those of a text that is written out are read off it, which leaves
little to decide. -/
theorem escapeFree_ofList {cs : List Char} : EscapeFree (String.ofList cs) ↔ escapeChar ∉ cs := by
  rw [EscapeFree, String.toList_ofList]

@[simp] theorem escapeFree_append {s t : String} :
    EscapeFree (s ++ t) ↔ EscapeFree s ∧ EscapeFree t := by
  rw [EscapeFree, String.toList_append, List.mem_append, not_or]
  rfl

/-- What is kept when texts are put together holds of texts that are joined, if it holds of each of
them and of what stands between them. -/
theorem intercalate_of_append {P : String → Prop} (hempty : P "")
    (happend : ∀ s t, P s → P t → P (s ++ t)) {sep : String} (hsep : P sep) {texts : List String}
    (h : ∀ s ∈ texts, P s) : P (sep.intercalate texts) := by
  induction texts with
  | nil => exact hempty
  | cons s texts ih =>
    obtain ⟨hs, hrest⟩ := List.forall_mem_cons.mp h
    cases texts with
    | nil => rwa [String.intercalate_singleton]
    | cons t texts =>
      rw [String.intercalate_cons_cons]
      exact happend _ _ (happend _ _ hs hsep) (ih hrest)

theorem EscapeFree.intercalate {sep : String} {texts : List String} (hsep : EscapeFree sep)
    (h : ∀ s ∈ texts, EscapeFree s) : EscapeFree (sep.intercalate texts) :=
  intercalate_of_append (by decide) (fun _ _ hs ht => escapeFree_append.mpr ⟨hs, ht⟩) hsep h

theorem EscapeFree.join {texts : List String} (h : ∀ s ∈ texts, EscapeFree s) :
    EscapeFree (String.join texts) := by
  rw [EscapeFree, String.toList_join, List.mem_flatMap]
  rintro ⟨s, hs, hescape⟩
  exact h s hs hescape

/-! ### Numbers -/

theorem escapeFree_toString (n : Int) : EscapeFree (toString n) :=
  notMem_toString (by decide) (by decide) n

theorem escapeFree_toString_nat (n : Nat) : EscapeFree (toString n) := escapeFree_toString n

/-! ### Capital letters -/

/-- A number that is no character stands for the character zero. -/
theorem toNat_ofNat_cases (n : Nat) : (Char.ofNat n).toNat = n ∨ (Char.ofNat n).toNat = 0 := by
  by_cases h : n.isValidChar
  · left
    rw [Char.ofNat, dif_pos h]
    rfl
  · right
    rw [Char.ofNat, dif_neg h]
    rfl

theorem ofNat_ne_escapeChar {n : Nat} (h : 0x20 ≤ n) : Char.ofNat n ≠ escapeChar := by
  intro heq
  have hescape : (Char.ofNat n).toNat = 0x1B := by rw [heq]; rfl
  rcases toNat_ofNat_cases n with hn | hn
  · omega
  · omega

theorem escapeChar_notMem_upperChars {c : Char} (h : c ≠ escapeChar) :
    escapeChar ∉ upperChars c := by
  have hsmall : ∀ n < 0x80, (Char.ofNat n).toUpper = escapeChar → Char.ofNat n = escapeChar := by
    decide +kernel
  have hexpansions : ∀ e ∈ upperExpansions, ∀ n ∈ e.2, 0x20 ≤ n := by decide +kernel
  have hruns : ∀ r ∈ upperRuns, 0x20 ≤ (r.first : Int) + r.shift := by decide +kernel
  rw [upperChars]
  split
  · next hc =>
    rw [List.mem_singleton]
    intro heq
    refine h ?_
    rw [← Char.ofNat_toNat c] at heq ⊢
    exact hsmall c.toNat hc heq.symm
  · split
    · next letters hletters =>
      rintro hmem
      obtain ⟨n, hn, heq⟩ := List.mem_map.mp hmem
      obtain ⟨front, back, htable, -⟩ := List.lookup_eq_some_iff.mp hletters
      have hentry : (c.toNat, letters) ∈ upperExpansions := by simp [htable]
      exact ofNat_ne_escapeChar (hexpansions _ hentry n hn) heq
    · rw [List.mem_singleton, CaseRun.mapChar]
      split
      · next r hr =>
        -- the letter is one of the run, so its capital is no less than that of the first one
        have hfirst := List.find?_some hr
        simp only [Bool.and_eq_true, decide_eq_true_eq] at hfirst
        have hshift := hruns r (List.mem_of_find?_eq_some hr)
        exact (ofNat_ne_escapeChar (by omega)).symm
      · exact h.symm

/-- No text gains the escape character from its letters being capital ones. -/
theorem EscapeFree.uppercase {s : String} (h : EscapeFree s) : EscapeFree (uppercase s) := by
  rw [Text.uppercase, escapeFree_ofList, List.mem_flatMap]
  rintro ⟨c, hc, hmem⟩
  refine escapeChar_notMem_upperChars ?_ hmem
  rintro rfl
  exact h hc

end Preflight.Text
