import Preflight.Text.Blank

/-!
# Texts without the blanks at their ends

Removing the blanks at the ends of a text takes nothing from what holds no blank: a text without
blanks stands in it, or at its start, just if it does before the removal.

## Main results

* `isBlankText_strip`: what is left is not blank.
* `prefix_strip_iff`, `infix_strip_iff`: what starts it, and what stands in it.
* `trimEnd_append`: blanks are removed behind the last character that is none.
-/

namespace Preflight.Text

variable {needle cs : List Char}

theorem isBlank_eq_false_of_mem (h : needle.any isBlank = false) {c : Char} (hc : c ∈ needle) :
    isBlank c = false :=
  Bool.eq_false_iff.mpr (List.any_eq_false.mp h c hc)

/-- What is left of a text without the blanks at its ends is not blank, unless it is empty. -/
theorem isBlankText_strip (h : strip cs ≠ []) : isBlankText (strip cs) = false := by
  have hend : (trimStart cs).reverse.dropWhile isBlank ≠ [] := by
    rwa [strip, trimEnd, ne_eq, List.reverse_eq_nil_iff] at h
  have hlast := List.head_dropWhile_not isBlank hend
  rw [isBlankText, List.all_eq_false]
  refine ⟨_, ?_, by rw [hlast]; exact Bool.false_ne_true⟩
  rw [strip, trimEnd, List.mem_reverse]
  exact List.head_mem hend

/-- The blanks at the end of a text are all that is removed there. -/
theorem exists_trimEnd_append (cs : List Char) :
    ∃ blanks, cs = trimEnd cs ++ blanks ∧ ∀ c ∈ blanks, isBlank c = true := by
  refine ⟨(cs.reverse.takeWhile isBlank).reverse, ?_, fun c hc => ?_⟩
  · rw [trimEnd, ← List.reverse_append, List.takeWhile_append_dropWhile, List.reverse_reverse]
  · exact List.all_eq_true.mp List.all_takeWhile c (List.mem_reverse.mp hc)

theorem trimEnd_isPrefixOf (cs : List Char) : trimEnd cs <+: cs := by
  obtain ⟨blanks, hcs, -⟩ := exists_trimEnd_append cs
  exact ⟨blanks, hcs.symm⟩

theorem strip_isPrefixOf_dropWhile (cs : List Char) : strip cs <+: cs.dropWhile isBlank :=
  trimEnd_isPrefixOf _

theorem strip_cons_of_isBlank {c : Char} (h : isBlank c = true) : strip (c :: cs) = strip cs := by
  rw [strip, strip, trimStart, trimStart, List.dropWhile_cons_of_pos h]

theorem mem_of_mem_strip {c : Char} (h : c ∈ strip cs) : c ∈ cs :=
  (List.dropWhile_suffix _).subset ((strip_isPrefixOf_dropWhile cs).subset h)

theorem prefix_trimEnd_iff (h : needle.any isBlank = false) :
    needle <+: trimEnd cs ↔ needle <+: cs := by
  obtain ⟨blanks, hcs, hblanks⟩ := exists_trimEnd_append cs
  constructor
  · exact fun hprefix => hprefix.trans (trimEnd_isPrefixOf cs)
  · intro hprefix
    rw [hcs] at hprefix
    rcases List.prefix_or_prefix_of_prefix hprefix (List.prefix_append _ _) with hshort | hlong
    · exact hshort
    · -- what goes beyond the last character is blank
      obtain ⟨more, rfl⟩ := hlong
      cases more with
      | nil =>
        exact ⟨[], by rw [List.append_nil, List.append_nil]⟩
      | cons c more =>
        have hblank := hblanks c (((List.prefix_append_right_inj _).mp hprefix).subset
          (List.mem_cons_self ..))
        have hmem := List.mem_append_right (trimEnd cs) (List.mem_cons_self (a := c) (l := more))
        rw [isBlank_eq_false_of_mem h hmem] at hblank
        exact absurd hblank Bool.false_ne_true

/-- What starts a text without the blanks at its ends. -/
theorem prefix_strip_iff (h : needle.any isBlank = false) :
    needle <+: strip cs ↔ needle <+: trimStart cs :=
  prefix_trimEnd_iff h

theorem infix_trimStart_iff (hne : needle ≠ []) (h : needle.any isBlank = false) :
    needle <:+: trimStart cs ↔ needle <:+: cs := by
  induction cs with
  | nil => rfl
  | cons c rest ih =>
    rw [trimStart, List.dropWhile_cons]
    split
    · next hc =>
      -- no text without blanks starts with this one
      have hstart : ¬ needle <+: c :: rest := by
        obtain ⟨x, more, rfl⟩ := List.exists_cons_of_ne_nil hne
        rintro hprefix
        rw [(List.cons_prefix_cons.mp hprefix).1] at h
        rw [isBlank_eq_false_of_mem h (List.mem_cons_self ..)] at hc
        exact Bool.false_ne_true hc
      rw [List.infix_cons_iff, or_iff_right hstart]
      exact ih
    · rfl

/-- What stands in a text without the blanks at its ends. -/
theorem infix_strip_iff (hne : needle ≠ []) (h : needle.any isBlank = false) :
    needle <:+: strip cs ↔ needle <:+: cs := by
  have hback : needle.reverse.any isBlank = false := by rwa [List.any_reverse]
  have hneback : needle.reverse ≠ [] := by rwa [ne_eq, List.reverse_eq_nil_iff]
  have hend : needle <:+: strip cs ↔ needle <:+: trimStart cs := by
    rw [strip, trimEnd, ← List.reverse_infix, List.reverse_reverse]
    exact (infix_trimStart_iff hneback hback).trans List.reverse_infix
  exact hend.trans (infix_trimStart_iff hne h)

/-- Blanks are removed behind the last character that is none. -/
theorem trimEnd_append {c : Char} (h : isBlank c = false) (front back : List Char) :
    trimEnd (front ++ c :: back) = front ++ c :: trimEnd back := by
  have hmark : (c :: front.reverse).dropWhile isBlank = c :: front.reverse :=
    List.dropWhile_cons_of_neg (by rw [h]; exact Bool.false_ne_true)
  rw [trimEnd, List.reverse_append, List.reverse_cons, List.append_assoc, List.singleton_append,
    List.dropWhile_append, hmark, trimEnd]
  cases back.reverse.dropWhile isBlank with
  | nil => simp
  | cons x rest => simp

end Preflight.Text
