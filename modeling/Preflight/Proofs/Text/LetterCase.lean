import Mathlib.Data.List.Infix
import Preflight.Text.LetterCase

/-!
# Small letters of a path

The lower-case form of a letter may depend on the letters around it, but not across a slash. So
the lower-case form of a path ends in that of its last name, and a suffix without a slash is one
of the path as soon as it is one of the name.

## Main results

* `lowerFrom_slash`: what stands before a slash changes nothing after it.
* `endsWith_lowercase_intercalate`: the suffixes of a path are those of its last name.
-/

namespace Preflight.Text

/-- A slash is not passed over, and it is no letter. -/
theorem nextIsCased_slash (p q : List Char) : nextIsCased (p ++ '/' :: q) = nextIsCased p := by
  have hpassed : caseIgnorableRanges.contains '/' = false := by decide +kernel
  have hcased : casedRanges.contains '/' = false := by decide +kernel
  induction p with
  | nil =>
    rw [nextIsCased, List.nil_append, List.dropWhile_cons_of_neg (by rw [hpassed]; decide)]
    exact hcased
  | cons c rest ih =>
    rw [nextIsCased, nextIsCased, List.cons_append]
    by_cases hc : caseIgnorableRanges.contains c = true
    · rw [List.dropWhile_cons_of_pos hc, List.dropWhile_cons_of_pos hc]
      exact ih
    · rw [List.dropWhile_cons_of_neg hc, List.dropWhile_cons_of_neg hc]

theorem lowerChars_slash (p q : List Char) (c : Char) (after : List Char) :
    lowerChars (p ++ '/' :: q) c after = lowerChars p c after := by
  rw [lowerChars, lowerChars, endsWord, endsWord, nextIsCased_slash]

/-- What stands before a slash changes nothing after it. -/
theorem lowerFrom_slash (p q cs : List Char) :
    lowerFrom (p ++ '/' :: q) cs = lowerFrom p cs := by
  induction cs generalizing p with
  | nil => rfl
  | cons c rest ih =>
    rw [lowerFrom, lowerFrom, lowerChars_slash, ← List.cons_append, ih]

theorem exists_lowerFrom_append (before a b : List Char) :
    ∃ front, lowerFrom before (a ++ b) = front ++ lowerFrom (a.reverse ++ before) b := by
  induction a generalizing before with
  | nil => exact ⟨[], rfl⟩
  | cons c rest ih =>
    obtain ⟨front, hfront⟩ := ih (c :: before)
    refine ⟨lowerChars before c (rest ++ b) ++ front, ?_⟩
    rw [List.cons_append, lowerFrom, hfront, List.reverse_cons, List.append_assoc,
      List.append_assoc, List.singleton_append]

/-- The lower-case form of what stands after a slash, read alone. -/
theorem exists_lowerFrom_slash (directory name : List Char) :
    ∃ front, lowerFrom [] (directory ++ '/' :: name) = front ++ '/' :: lowerFrom [] name := by
  obtain ⟨front, hfront⟩ := exists_lowerFrom_append [] directory ('/' :: name)
  refine ⟨front, ?_⟩
  rw [hfront, lowerFrom, ← List.nil_append ('/' :: _), lowerFrom_slash]
  rfl

/-- A suffix that holds no separator does not reach beyond the last one. -/
theorem suffix_append_cons_iff {α : Type} {s front last : List α} {sep : α} (h : sep ∉ s) :
    s <:+ front ++ sep :: last ↔ s <:+ last := by
  constructor
  · intro hs
    have hlast : sep :: last <:+ front ++ sep :: last := List.suffix_append front _
    rcases List.suffix_or_suffix_of_suffix hs hlast with hs | hs
    · rcases List.suffix_cons_iff.mp hs with rfl | hs
      · exact absurd (List.mem_cons_self ..) h
      · exact hs
    · exact absurd (hs.mem (List.mem_cons_self ..)) h
  · intro hs
    exact hs.trans ((List.suffix_cons sep last).trans (List.suffix_append front _))

theorem endsWith_iff {s suffix : String} :
    s.endsWith suffix = true ↔ suffix.toList <:+ s.toList := by
  rw [String.endsWith_eq_endsWith_toSlice, String.Slice.endsWith_string_iff, String.copy_toSlice]

/-- **The suffixes of a path are those of its last name**, as long as they hold no slash. -/
theorem endsWith_lowercase_intercalate {segments : List String} (hne : segments ≠ [])
    {suffix : String} (h : '/' ∉ suffix.toList) :
    (lowercase ("/".intercalate segments)).endsWith suffix =
      (lowercase (segments.getLast?.getD "")).endsWith suffix := by
  induction segments with
  | nil => exact absurd rfl hne
  | cons s rest ih =>
    cases rest with
    | nil => simp
    | cons t more =>
      have htail := ih (List.cons_ne_nil t more)
      rw [List.getLast?_cons_cons, ← htail, Bool.eq_iff_iff, endsWith_iff, endsWith_iff,
        lowercase, lowercase, String.toList_ofList, String.toList_ofList]
      have hjoin : ("/".intercalate (s :: t :: more)).toList =
          s.toList ++ '/' :: ("/".intercalate (t :: more)).toList := by
        rw [String.toList_intercalate, String.toList_intercalate]
        simp [List.intercalate_cons_cons]
      obtain ⟨front, hfront⟩ :=
        exists_lowerFrom_slash s.toList ("/".intercalate (t :: more)).toList
      rw [hjoin, hfront, suffix_append_cons_iff h]

end Preflight.Text
