import Mathlib.Data.List.Forall2
import Preflight.Proofs.Source.CommentLines

/-!
# Comments read character by character

Comments are delimited by their marks wherever these stand, while the counter of comment lines looks
at the start of a line and asks whether a line holds the mark that ends a block. So it misses a
block that opens behind code, one that opens again on the line on which another one ends, and one
whose two marks share the star. It never takes code for comment: where it keeps a block open, one is
open.

Texts in quotes and patterns are not told apart from code here.

## Main definitions

* `endsInBlock`, `commentMarks`: a line read from left to right.
* `startsInComment`: a line whose first character that is not blank lies in a comment.
* `readLines`, `linesInComment`: the lines of which this is so.
* `OpensAtStart`: a line that opens a block comment nowhere but at its start.

## Main results

* `startsInComment_eq`: what a line starts with tells it, once it is known whether a block is open.
* `endsInBlock_of_commentStep`, `forall₂_commentFlags`: the counter never runs ahead of the reader.
* `commentLines_read`: which lines of comment the counter misses, and where it misses none.
-/

namespace Preflight.Source

open Preflight.Text

/-! ### One line -/

/-- Whether a block comment is open after a text, read from left to right from inside of one or
not. -/
def endsInBlock : Bool → List Char → Bool
  | inBlock, [] => inBlock
  | true, '*' :: '/' :: rest => endsInBlock false rest
  | true, _ :: rest => endsInBlock true rest
  | false, '/' :: '/' :: _ => false
  | false, '/' :: '*' :: rest => endsInBlock true rest
  | false, _ :: rest => endsInBlock false rest

/-- Which characters of a line lie in a comment, its marks included. -/
def commentMarks : Bool → List Char → List Bool
  | _, [] => []
  | true, '*' :: '/' :: rest => true :: true :: commentMarks false rest
  | true, _ :: rest => true :: commentMarks true rest
  | false, '/' :: '/' :: rest => true :: true :: rest.map fun _ => true
  | false, '/' :: '*' :: rest => true :: true :: commentMarks true rest
  | false, _ :: rest => false :: commentMarks false rest

/-- The first character of a line that is not blank lies in a comment, or the start of a blank line
does. -/
def startsInComment (inBlock : Bool) (line : Line) : Bool :=
  match (line.zip (commentMarks inBlock line)).find? fun marked => !isBlank marked.1 with
  | some marked => marked.2
  | none => inBlock

variable {inBlock : Bool} {ls above below : List Line} {line : Line} {c : Char} {rest cs : List Char}

/-! ### What a line starts with -/

theorem startsWith_iff_trimStart {s : String} (h : s.toList.any isBlank = false) :
    startsWith line s = true ↔ s.toList <+: trimStart line :=
  startsWith_iff.trans (prefix_strip_iff h)

/-- No mark of a comment holds a blank. -/
theorem ne_of_isBlank (h : isBlank c = true) : c ≠ '*' ∧ c ≠ '/' := by
  constructor
  · rintro rfl
    exact absurd h (by decide)
  · rintro rfl
    exact absurd h (by decide)

theorem commentMarks_cons_of_isBlank (h : isBlank c = true) :
    commentMarks inBlock (c :: rest) = inBlock :: commentMarks inBlock rest := by
  obtain ⟨hstar, hslash⟩ := ne_of_isBlank h
  cases inBlock <;> simp [commentMarks, hstar, hslash]

theorem commentMarks_false_cons (hline : ¬ "//".toList <+: c :: rest)
    (hblock : ¬ "/*".toList <+: c :: rest) :
    commentMarks false (c :: rest) = false :: commentMarks false rest := by
  rw [commentMarks]
  · rintro after rfl rfl
    exact hline (List.prefix_append _ after)
  · rintro after rfl rfl
    exact hblock (List.prefix_append _ after)

/-- The first character of a text lies in a comment if the text starts inside of one, or with a mark
that opens one. -/
theorem exists_commentMarks_cons (c : Char) (rest : List Char) :
    ∃ mark marks, commentMarks inBlock (c :: rest) = mark :: marks ∧
      (mark = true ↔ inBlock = true ∨ "//".toList <+: c :: rest ∨ "/*".toList <+: c :: rest) := by
  cases inBlock with
  | true =>
    rw [commentMarks.eq_def]
    split <;> simp_all
  | false =>
    by_cases hline : "//".toList <+: c :: rest
    · obtain ⟨after, hafter⟩ := hline
      rw [← hafter]
      exact ⟨true, _, rfl, by simp⟩
    by_cases hblock : "/*".toList <+: c :: rest
    · obtain ⟨after, hafter⟩ := hblock
      rw [← hafter]
      exact ⟨true, _, rfl, by simp⟩
    · exact ⟨false, _, commentMarks_false_cons hline hblock, by
        simp only [Bool.false_eq_true, hline, hblock, or_self]⟩

/-- **Where a line starts.** Once it is known whether a block comment is open, the first characters
of a line that are not blank tell whether it starts in a comment. -/
theorem startsInComment_eq (line : Line) :
    startsInComment inBlock line =
      (inBlock || startsWith line "//" || startsWith line "/*") := by
  induction line with
  | nil => cases inBlock <;> rfl
  | cons c rest ih =>
    cases hblank : isBlank c with
    | true =>
      rw [startsInComment, commentMarks_cons_of_isBlank hblank, List.zip_cons_cons,
        List.find?_cons_of_neg (by simp [hblank]), startsWith, startsWith,
        strip_cons_of_isBlank hblank]
      exact ih
    | false =>
      obtain ⟨mark, marks, hmarks, hmark⟩ := @exists_commentMarks_cons inBlock c rest
      have hstart : trimStart (c :: rest) = c :: rest :=
        List.dropWhile_cons_of_neg (by simp [hblank])
      rw [startsInComment, hmarks, List.zip_cons_cons, List.find?_cons_of_pos (by simp [hblank])]
      rw [Bool.eq_iff_iff, hmark, Bool.or_eq_true, Bool.or_eq_true,
        startsWith_iff_trimStart (by decide), startsWith_iff_trimStart (by decide), hstart, or_assoc]

/-! ### What a line leaves open -/

theorem endsInBlock_true_cons (h : ¬ "*/".toList <+: c :: rest) :
    endsInBlock true (c :: rest) = endsInBlock true rest := by
  rw [endsInBlock]
  rintro after rfl rfl
  exact h (List.prefix_append _ after)

theorem endsInBlock_false_cons (hline : ¬ "//".toList <+: c :: rest)
    (hblock : ¬ "/*".toList <+: c :: rest) :
    endsInBlock false (c :: rest) = endsInBlock false rest := by
  rw [endsInBlock]
  · rintro after rfl rfl
    exact hline (List.prefix_append _ after)
  · rintro after rfl rfl
    exact hblock (List.prefix_append _ after)

/-- Blanks at the start of a line change nothing. -/
theorem endsInBlock_trimStart (line : Line) :
    endsInBlock inBlock (trimStart line) = endsInBlock inBlock line := by
  induction line with
  | nil => rfl
  | cons c rest ih =>
    cases hblank : isBlank c with
    | true =>
      obtain ⟨hstar, hslash⟩ := ne_of_isBlank hblank
      have hskip : endsInBlock inBlock (c :: rest) = endsInBlock inBlock rest := by
        cases inBlock <;> simp [endsInBlock, hstar, hslash]
      rw [trimStart, List.dropWhile_cons_of_pos hblank, hskip]
      exact ih
    | false => rw [trimStart, List.dropWhile_cons_of_neg (by simp [hblank])]

/-- A block comment that is open stays open where no mark ends it. -/
theorem endsInBlock_true_of_not_close (h : ¬ "*/".toList <:+: cs) : endsInBlock true cs = true := by
  induction cs with
  | nil => rfl
  | cons c rest ih =>
    rw [List.infix_cons_iff, not_or] at h
    rw [endsInBlock_true_cons h.1]
    exact ih h.2

/-- No block comment is open at the end where no mark opens one. -/
theorem open_infix_of_endsInBlock_false (h : endsInBlock false cs = true) :
    "/*".toList <:+: cs := by
  induction cs with
  | nil => cases h
  | cons c rest ih =>
    rw [List.infix_cons_iff]
    by_cases hblock : "/*".toList <+: c :: rest
    · exact Or.inl hblock
    by_cases hline : "//".toList <+: c :: rest
    · obtain ⟨after, hafter⟩ := hline
      rw [← hafter] at h
      cases h
    · rw [endsInBlock_false_cons hline hblock] at h
      exact Or.inr (ih h)

/-- Where a block comment is open at both ends of a text, no mark ends it, or a mark behind the first
character opens another one. -/
theorem not_close_or_open_of_endsInBlock_true (h : endsInBlock true cs = true) :
    ¬ "*/".toList <:+: cs ∨ "/*".toList <:+: cs.tail := by
  induction cs with
  | nil => exact Or.inl (by decide)
  | cons c rest ih =>
    rw [List.infix_cons_iff, not_or, List.tail_cons]
    by_cases hclose : "*/".toList <+: c :: rest
    · obtain ⟨after, hafter⟩ := hclose
      obtain ⟨rfl, rfl⟩ := List.cons_eq_cons.mp hafter
      exact Or.inr (List.infix_cons (open_infix_of_endsInBlock_false h))
    · rw [endsInBlock_true_cons hclose] at h
      rcases ih h with hnone | hopen
      · exact Or.inl ⟨hclose, hnone⟩
      · exact Or.inr (hopen.trans (List.tail_suffix rest).isInfix)

/-- A line that starts with the mark that opens a block comment. -/
theorem exists_of_startsWith_open (h : startsWith line "/*" = true) :
    ∃ rest, trimStart line = '/' :: '*' :: rest := by
  rw [startsWith_iff_trimStart (by decide)] at h
  obtain ⟨rest, hrest⟩ := h
  exact ⟨rest, hrest.symm⟩

theorem close_infix_trimStart_iff : "*/".toList <:+: trimStart line ↔ "*/".toList <:+: line :=
  infix_trimStart_iff (by decide) (by decide)

/-- **The counter does not run ahead of the reader**: where it keeps a block comment open over a
line, one is open at the end. -/
theorem endsInBlock_of_commentStep {inBlock' : Bool} (h : inBlock = true → inBlock' = true)
    (hstep : (commentStep inBlock line).2 = true) : endsInBlock inBlock' line = true := by
  obtain ⟨hopen, hclose⟩ := commentStep_snd_eq_true_iff.mp hstep
  rw [← close_infix_trimStart_iff] at hclose
  rw [← endsInBlock_trimStart]
  cases inBlock' with
  | true => exact endsInBlock_true_of_not_close hclose
  | false =>
    obtain ⟨rest, hrest⟩ := exists_of_startsWith_open
      (hopen.resolve_left fun hin => Bool.false_ne_true (h hin))
    rw [hrest] at hclose ⊢
    refine endsInBlock_true_of_not_close fun hinfix => hclose ?_
    exact hinfix.trans (List.suffix_append ['/', '*'] rest).isInfix

/-- A line opens a block comment nowhere but at its start, and the marks that open and end it share
no star. -/
def OpensAtStart (line : Line) : Prop :=
  ¬ "/*".toList <:+: (trimStart line).tail ∧ ¬ "/*/".toList <+: trimStart line

/-- The counter keeps up with the reader over a line that opens block comments at its start only. -/
theorem endsInBlock_eq_of_opensAtStart (h : OpensAtStart line) :
    endsInBlock inBlock line = (commentStep inBlock line).2 := by
  obtain ⟨hlater, hshared⟩ := h
  refine Bool.eq_iff_iff.mpr ⟨fun hend => ?_, endsInBlock_of_commentStep id⟩
  rw [commentStep_snd_eq_true_iff, ← close_infix_trimStart_iff]
  rw [← endsInBlock_trimStart] at hend
  cases inBlock with
  | true => exact ⟨Or.inl rfl, (not_close_or_open_of_endsInBlock_true hend).resolve_right hlater⟩
  | false =>
    by_cases hopen : startsWith line "/*" = true
    · obtain ⟨rest, hrest⟩ := exists_of_startsWith_open hopen
      rw [hrest] at hlater hshared hend ⊢
      have hnone : ¬ "*/".toList <:+: rest :=
        (not_close_or_open_of_endsInBlock_true hend).resolve_right fun hagain =>
          hlater (List.infix_cons (hagain.trans (List.tail_suffix rest).isInfix))
      refine ⟨Or.inr hopen, fun hclose => ?_⟩
      rcases List.infix_cons_iff.mp hclose with hstart | hclose
      · exact absurd (List.cons_prefix_cons.mp hstart).1 (by decide)
      rcases List.infix_cons_iff.mp hclose with hstart | hclose
      · exact hshared ((List.prefix_cons_inj '/').mpr hstart)
      · exact hnone hclose
    · -- a mark that opens a block would stand behind the first character
      have hmark := open_infix_of_endsInBlock_false hend
      rw [startsWith_iff_trimStart (by decide)] at hopen
      cases hline : trimStart line with
      | nil =>
        rw [hline] at hmark
        exact absurd hmark (by decide)
      | cons c rest =>
        rw [hline] at hmark hopen hlater
        rcases List.infix_cons_iff.mp hmark with hstart | hlate
        · exact absurd hstart hopen
        · exact absurd hlate hlater

/-! ### All lines -/

/-- Whether a block comment is open after some lines. -/
def blockOpenAfter (ls : List Line) : Bool := ls.foldl endsInBlock false

/-- Which lines start in a comment, read across the lines from inside of a block comment or not. -/
def readLines (inBlock : Bool) : List Line → List Bool
  | [] => []
  | line :: rest => startsInComment inBlock line :: readLines (endsInBlock inBlock line) rest

/-- The number of lines that start in a comment. -/
def linesInComment (ls : List Line) : Nat := (readLines false ls).countP id

theorem length_readLines (ls : List Line) : (readLines inBlock ls).length = ls.length := by
  induction ls generalizing inBlock with
  | nil => rfl
  | cons line rest ih => rw [readLines, List.length_cons, List.length_cons, ih]

theorem readLines_append (xs ys : List Line) :
    readLines inBlock (xs ++ ys) =
      readLines inBlock xs ++ readLines (xs.foldl endsInBlock inBlock) ys := by
  induction xs generalizing inBlock with
  | nil => rfl
  | cons line xs ih =>
    rw [List.cons_append, readLines, readLines, ih]
    rfl

/-- **Which lines start in a comment**: those that start with a mark of a comment, and those above
which a block comment is open. -/
theorem getElem?_readLines_eq_some_true_iff :
    (readLines false (above ++ line :: below))[above.length]? = some true ↔
      blockOpenAfter above = true ∨ startsWith line "//" = true ∨ startsWith line "/*" = true := by
  have hlength : (readLines false above).length = above.length := length_readLines above
  rw [readLines_append, readLines, ← hlength, List.getElem?_append_right (Nat.le_refl _),
    Nat.sub_self, List.getElem?_cons_zero, Option.some_inj, startsInComment_eq, Bool.or_eq_true,
    Bool.or_eq_true, blockOpenAfter, or_assoc]

/-- Where the counter keeps a block comment open after some lines, one is open. -/
theorem blockOpenAfter_of_leavesOpen (h : LeavesOpen ls) : blockOpenAfter ls = true := by
  have hrun : ∀ {s t : Bool}, (s = true → t = true) →
      insideAfter s ls = true → ls.foldl endsInBlock t = true := by
    clear h
    induction ls with
    | nil => exact id
    | cons line ls ih => exact fun hst => ih (endsInBlock_of_commentStep hst)
  exact hrun id (insideAfter_eq_true_iff.mpr h)

/-- What counts as comment starts in one, line by line. -/
theorem forall₂_commentFlags {s t : Bool} (h : s = true → t = true) (ls : List Line) :
    List.Forall₂ (fun counted inComment => counted = true → inComment = true)
      (commentFlags s ls) (readLines t ls) := by
  induction ls generalizing s t with
  | nil => exact List.Forall₂.nil
  | cons line rest ih =>
    rw [commentFlags_cons, readLines]
    refine List.Forall₂.cons (fun hcounted => ?_) (ih (endsInBlock_of_commentStep h))
    rw [commentStep_fst, Bool.or_eq_true, Bool.or_eq_true] at hcounted
    rw [startsInComment_eq, Bool.or_eq_true, Bool.or_eq_true]
    exact hcounted.imp_left (Or.imp_left h)

/-- Over lines that open block comments at their starts only, the counter counts what starts in a
comment. -/
theorem commentFlags_eq_readLines (h : ∀ line ∈ ls, OpensAtStart line) :
    commentFlags inBlock ls = readLines inBlock ls := by
  induction ls generalizing inBlock with
  | nil => rfl
  | cons line rest ih =>
    obtain ⟨hline, hrest⟩ := List.forall_mem_cons.mp h
    rw [commentFlags_cons, readLines, ih hrest, endsInBlock_eq_of_opensAtStart hline,
      commentStep_fst, startsInComment_eq]

/-! ### The numbers -/

section

variable {xs ys : List Bool}

theorem countP_le_of_forall₂ (h : List.Forall₂ (fun x y => x = true → y = true) xs ys) :
    xs.countP id ≤ ys.countP id := by
  induction h with
  | nil => exact Nat.le_refl 0
  | @cons x y xs ys hxy _ ih =>
    rw [List.countP_cons, List.countP_cons]
    cases x with
    | false => exact Nat.le_trans ih (Nat.le_add_right _ _)
    | true =>
      rw [hxy rfl]
      exact Nat.succ_le_succ ih

/-- What is counted less is missed somewhere. -/
theorem countP_eq_iff_of_forall₂ (h : List.Forall₂ (fun x y => x = true → y = true) xs ys) :
    xs.countP id = ys.countP id ↔ ∀ i : Nat, ys[i]? = some true → xs[i]? = some true := by
  induction h with
  | nil => simp
  | @cons x y xs ys hxy htail ih =>
    have hle := countP_le_of_forall₂ htail
    have hhead : (∀ i : Nat, (y :: ys)[i]? = some true → (x :: xs)[i]? = some true) ↔
        (y = true → x = true) ∧ ∀ i : Nat, ys[i]? = some true → xs[i]? = some true := by
      constructor
      · exact fun hall => ⟨fun hy => by simpa [hy] using hall 0, fun i => by simpa using hall (i + 1)⟩
      · rintro ⟨hzero, hsucc⟩ (_ | i)
        · simpa using hzero
        · simpa using hsucc i
    rw [hhead, ← ih, List.countP_cons, List.countP_cons]
    cases x <;> cases y <;> simp at hxy ⊢
    omega

end

/-- The counter misses no line just if it knows of every block comment above a line that does not
start with a mark itself. -/
theorem commentLines_eq_iff :
    commentLines ls = linesInComment ls ↔
      ∀ above line below, ls = above ++ line :: below → blockOpenAfter above = true →
        LeavesOpen above ∨ startsWith line "//" = true ∨ startsWith line "/*" = true := by
  rw [commentLines, linesInComment, countP_eq_iff_of_forall₂ (forall₂_commentFlags id ls)]
  constructor
  · rintro hall above line below rfl hopen
    exact getElem?_commentFlags_eq_some_true_iff.mp
      (hall above.length (getElem?_readLines_eq_some_true_iff.mpr (Or.inl hopen)))
  · intro hall i hi
    obtain ⟨hlt, -⟩ := List.getElem?_eq_some_iff.mp hi
    rw [length_readLines] at hlt
    obtain ⟨above, line, below, rfl, rfl⟩ := exists_eq_append_cons hlt
    rw [getElem?_readLines_eq_some_true_iff] at hi
    rw [getElem?_commentFlags_eq_some_true_iff]
    rcases hi with hopen | hstart
    · exact hall above line below rfl hopen
    · exact Or.inr hstart

/-- **Comment lines, counted and read.** A line starts in a comment if a block comment is open above
it or if it starts with a mark of a comment. A line counts as comment if it starts with such a mark,
or if a line above starts with the mark that opens a block comment and the mark that ends it stands
neither there nor on a line since, in which case a block comment is open. So every line that counts
starts in a comment, and a line of comment is missed exactly where a block comment is open of which
the counter does not know and the line does not start with a mark. None is missed where every line
opens a block comment at its start only. -/
theorem commentLines_read (ls : List Line) :
    (∀ above line below, ls = above ++ line :: below →
      ((readLines false ls)[above.length]? = some true ↔
        blockOpenAfter above = true ∨ startsWith line "//" = true ∨
          startsWith line "/*" = true) ∧
      ((commentFlags false ls)[above.length]? = some true ↔
        LeavesOpen above ∨ startsWith line "//" = true ∨ startsWith line "/*" = true) ∧
      (LeavesOpen above → blockOpenAfter above = true)) ∧
    commentLines ls ≤ linesInComment ls ∧
    (commentLines ls = linesInComment ls ↔
      ∀ above line below, ls = above ++ line :: below → blockOpenAfter above = true →
        LeavesOpen above ∨ startsWith line "//" = true ∨ startsWith line "/*" = true) ∧
    ((∀ line ∈ ls, OpensAtStart line) → commentLines ls = linesInComment ls) := by
  refine ⟨?_, countP_le_of_forall₂ (forall₂_commentFlags id ls), commentLines_eq_iff,
    fun hstart => ?_⟩
  · rintro above line below rfl
    exact ⟨getElem?_readLines_eq_some_true_iff, getElem?_commentFlags_eq_some_true_iff,
      blockOpenAfter_of_leavesOpen⟩
  · rw [commentLines, linesInComment, commentFlags_eq_readLines hstart]

/-- A block comment behind code, one that opens where another ends, and one whose marks share a
star: no line that starts in them counts. -/
theorem commentLines_missed :
    commentLines ["f(); /* a".toList, "b".toList, "*/".toList] = 0 ∧
      linesInComment ["f(); /* a".toList, "b".toList, "*/".toList] = 2 ∧
      commentLines ["/* a */ /* b".toList, "c */".toList] = 1 ∧
      linesInComment ["/* a */ /* b".toList, "c */".toList] = 2 ∧
      commentLines ["/*/ a".toList, "b */".toList] = 1 ∧
      linesInComment ["/*/ a".toList, "b */".toList] = 2 := by
  decide +kernel

end Preflight.Source
