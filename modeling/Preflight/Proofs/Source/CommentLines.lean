import Mathlib.Data.List.Induction
import Preflight.Proofs.Scoring.Bands
import Preflight.Proofs.Text.Blank
import Preflight.Source.LineCount

/-!
# Lines of comment and lines that import

The counter of comment lines goes down the lines and keeps one thing in mind, whether a block
comment is open. A line that starts with the opening mark opens one, and a line that holds the
closing mark closes it. Lines that bring in other files are counted one by one without looking at
those above, so a line that imports counts as comment too where it stands in a block comment, and
nowhere else.

## Main definitions

* `LeavesOpen`: a block comment is open after some lines.
* `markedLines`, `codeLines`, `commentedImports`: the lines with what the counter makes of them,
  those that are no comment, and the number of those that import all the same.

## Main results

* `getElem?_commentFlags_eq_some_true_iff`: the lines that count as comment.
* `imports_in_comments`: which lines count as both, and what that does to the numbers.
-/

namespace Preflight.Source

open Preflight.Text

variable {inBlock : Bool} {ls above below : List Line} {line : Line}

/-! ### One line -/

theorem startsWith_iff {s : String} : startsWith line s = true ↔ s.toList <+: strip line :=
  List.isPrefixOf_iff_prefix

/-- The mark that ends a block comment stands on a line. -/
theorem occursIn_close_iff :
    occursIn "*/".toList (strip line) = true ↔ "*/".toList <:+: line := by
  rw [occursIn_iff]
  exact infix_strip_iff (by decide) (by decide)

/-- What a line starts with, character by character. -/
theorem getElem?_of_startsWith {s : String} (h : startsWith line s = true) {i : Nat}
    (hi : i < s.toList.length) : (strip line)[i]? = s.toList[i]? := by
  obtain ⟨rest, hrest⟩ := startsWith_iff.mp h
  rw [← hrest, List.getElem?_append_left hi]

theorem startsWith_open_of_slashes (h : startsWith line "//" = true) :
    startsWith line "/*" = false := by
  refine Bool.eq_false_iff.mpr fun hopen => ?_
  have hslash := getElem?_of_startsWith h (i := 1) (by decide)
  rw [getElem?_of_startsWith hopen (by decide)] at hslash
  exact absurd hslash (by decide)

theorem commentStep_fst :
    (commentStep inBlock line).1 =
      (inBlock || startsWith line "//" || startsWith line "/*") := by
  rw [commentStep]
  cases inBlock with
  | true => rfl
  | false => cases startsWith line "//" <;> cases startsWith line "/*" <;> rfl

/-- A block comment is open after a line if it was open before or the line starts with the mark that
opens one, and the line does not hold the mark that ends it. -/
theorem commentStep_snd_eq_true_iff :
    (commentStep inBlock line).2 = true ↔
      (inBlock = true ∨ startsWith line "/*" = true) ∧ ¬ "*/".toList <:+: line := by
  have hsnd : (commentStep inBlock line).2 =
      ((inBlock || startsWith line "/*") && !occursIn "*/".toList (strip line)) := by
    rw [commentStep]
    cases inBlock with
    | true => rfl
    | false =>
      cases hslashes : startsWith line "//" with
      | true => rw [startsWith_open_of_slashes hslashes]; rfl
      | false => cases startsWith line "/*" <;> rfl
  rw [hsnd, ← occursIn_close_iff, Bool.and_eq_true, Bool.or_eq_true, Bool.not_eq_true',
    Bool.not_eq_true]

/-! ### The lines above a line -/

/-- Whether the counter takes a block comment to be open after some lines. -/
def insideAfter (inBlock : Bool) (ls : List Line) : Bool :=
  ls.foldl (fun inside line => (commentStep inside line).2) inBlock

/-- A block comment stays open after some lines, as the counter takes it: one of them starts with
the mark that opens it, and the mark that ends it stands neither on that line nor on one since. -/
def LeavesOpen (ls : List Line) : Prop :=
  ∃ above opening since, ls = above ++ opening :: since ∧ startsWith opening "/*" = true ∧
    ∀ line ∈ opening :: since, ¬ "*/".toList <:+: line

/-- A line keeps a block comment open if it does not hold the mark that ends it, and opens one if
besides it starts with the mark for that. -/
theorem leavesOpen_concat :
    LeavesOpen (ls ++ [line]) ↔
      (LeavesOpen ls ∨ startsWith line "/*" = true) ∧ ¬ "*/".toList <:+: line := by
  constructor
  · rintro ⟨above, opening, since, heq, hopening, hsince⟩
    rcases List.eq_nil_or_concat since with rfl | ⟨since, last, rfl⟩
    · obtain ⟨rfl, hlast⟩ := List.append_inj' heq rfl
      obtain rfl := List.singleton_inj.mp hlast
      exact ⟨Or.inr hopening, hsince line (List.mem_singleton_self line)⟩
    · rw [List.concat_eq_append, ← List.cons_append, ← List.append_assoc] at heq
      obtain ⟨rfl, hlast⟩ := List.append_inj' heq rfl
      obtain rfl := List.singleton_inj.mp hlast
      refine ⟨Or.inl ⟨above, opening, since, rfl, hopening, fun l hl => hsince l ?_⟩,
        hsince line (by simp)⟩
      rw [List.concat_eq_append, ← List.cons_append]
      exact List.mem_append_left _ hl
  · rintro ⟨⟨above, opening, since, rfl, hopening, hsince⟩ | hopening, hline⟩
    · refine ⟨above, opening, since ++ [line], by simp, hopening, fun l hl => ?_⟩
      rw [← List.cons_append, List.mem_append, List.mem_singleton] at hl
      rcases hl with hl | rfl
      · exact hsince l hl
      · exact hline
    · refine ⟨ls, line, [], rfl, hopening, fun l hl => ?_⟩
      obtain rfl := List.mem_singleton.mp hl
      exact hline

/-- **What the counter keeps in mind** is told by the lines themselves. -/
theorem insideAfter_eq_true_iff : insideAfter false ls = true ↔ LeavesOpen ls := by
  induction ls using List.reverseRecOn with
  | nil =>
    refine iff_of_false Bool.false_ne_true ?_
    rintro ⟨above, opening, since, heq, -⟩
    exact List.cons_ne_nil _ _ (List.append_eq_nil_iff.mp heq.symm).2
  | append_singleton ls line ih =>
    have hstep : insideAfter false (ls ++ [line]) = (commentStep (insideAfter false ls) line).2 := by
      rw [insideAfter, List.foldl_concat]
      rfl
    rw [hstep, commentStep_snd_eq_true_iff, leavesOpen_concat, ih]

theorem commentFlags_cons (line : Line) (rest : List Line) :
    commentFlags inBlock (line :: rest) =
      (commentStep inBlock line).1 :: commentFlags (commentStep inBlock line).2 rest := rfl

theorem commentFlags_append (xs ys : List Line) :
    commentFlags inBlock (xs ++ ys) =
      commentFlags inBlock xs ++ commentFlags (insideAfter inBlock xs) ys := by
  induction xs generalizing inBlock with
  | nil => rfl
  | cons line xs ih =>
    rw [List.cons_append, commentFlags_cons, commentFlags_cons, ih]
    rfl

/-- **Which lines count as comment**: those that start with a mark of a comment, and those above
which a block comment stays open. -/
theorem getElem?_commentFlags_eq_some_true_iff :
    (commentFlags false (above ++ line :: below))[above.length]? = some true ↔
      LeavesOpen above ∨ startsWith line "//" = true ∨ startsWith line "/*" = true := by
  have hlength : (commentFlags false above).length = above.length := length_commentFlags false above
  rw [commentFlags_append, commentFlags_cons, ← hlength, List.getElem?_append_right (Nat.le_refl _),
    Nat.sub_self, List.getElem?_cons_zero, Option.some_inj, commentStep_fst, Bool.or_eq_true,
    Bool.or_eq_true, insideAfter_eq_true_iff, or_assoc]

/-! ### Lines that count as both -/

/-- What a line that imports may start with. -/
def importStarts : List String := ["import ", "import\x7b", "const ", "let ", "var "]

theorem exists_importStart (h : isImportLine line = true) :
    ∃ s ∈ importStarts, startsWith line s = true := by
  simp only [isImportLine, Bool.or_eq_true, Bool.and_eq_true] at h
  rcases h with (h | h) | ⟨(h | h) | h, -⟩
  all_goals exact ⟨_, by simp [importStarts], h⟩

/-- A line that imports starts with no mark of a comment. -/
theorem startsWith_mark_of_isImportLine (h : isImportLine line = true) {mark : String}
    (hmark : mark = "//" ∨ mark = "/*") : startsWith line mark = false := by
  obtain ⟨s, hs, hline⟩ := exists_importStart h
  refine Bool.eq_false_iff.mpr fun hcomment => ?_
  have hstarts : ∀ s ∈ importStarts, 0 < s.toList.length ∧ s.toList[0]? ≠ some '/' := by decide
  obtain ⟨hlength, hslash⟩ := hstarts s hs
  refine hslash ?_
  rw [← getElem?_of_startsWith hline hlength]
  rcases hmark with rfl | rfl
  · exact getElem?_of_startsWith hcomment (by decide)
  · exact getElem?_of_startsWith hcomment (by decide)

/-- A line that imports counts as comment just where a block comment stays open above it. -/
theorem counted_iff_of_isImportLine (h : isImportLine line = true) :
    (commentFlags false (above ++ line :: below))[above.length]? = some true ↔
      LeavesOpen above := by
  rw [getElem?_commentFlags_eq_some_true_iff, startsWith_mark_of_isImportLine h (Or.inl rfl),
    startsWith_mark_of_isImportLine h (Or.inr rfl)]
  exact or_iff_left (by decide)

/-! ### The numbers -/

/-- The lines, each with whether it counts as comment. -/
def markedLines (ls : List Line) : List (Line × Bool) := ls.zip (commentFlags false ls)

/-- The lines that do not count as comment. -/
def codeLines (ls : List Line) : List Line :=
  ((markedLines ls).filter fun marked => !marked.2).map (·.1)

/-- The number of lines that count as comment and as an import. -/
def commentedImports (ls : List Line) : Nat :=
  (markedLines ls).countP fun marked => marked.2 && isImportLine marked.1

theorem map_fst_markedLines (ls : List Line) : (markedLines ls).map (·.1) = ls :=
  List.map_fst_zip (Nat.le_of_eq (length_commentFlags false ls).symm)

theorem map_snd_markedLines (ls : List Line) : (markedLines ls).map (·.2) = commentFlags false ls :=
  List.map_snd_zip (Nat.le_of_eq (length_commentFlags false ls))

theorem commentLines_add_length_codeLines (ls : List Line) :
    commentLines ls + (codeLines ls).length = ls.length := by
  have hcount : commentLines ls = (markedLines ls).countP (·.2) := by
    rw [commentLines, ← map_snd_markedLines, List.countP_map]
    rfl
  have hlength : ls.length = (markedLines ls).length := by
    conv_lhs => rw [← map_fst_markedLines ls, List.length_map]
  have hsplit := List.length_eq_countP_add_countP (l := markedLines ls) (·.2)
  rw [hcount, hlength, hsplit, codeLines, List.length_map, ← List.countP_eq_length_filter]
  simp

theorem importLines_eq_add (ls : List Line) :
    importLines ls = importLines (codeLines ls) + commentedImports ls := by
  have hall : importLines ls = (markedLines ls).countP fun marked => isImportLine marked.1 := by
    conv_lhs => rw [importLines, ← map_fst_markedLines ls, List.countP_map]
    rfl
  have hcode : importLines (codeLines ls) =
      ((markedLines ls).filter fun marked => !marked.2).countP fun marked =>
        isImportLine marked.1 := by
    rw [importLines, codeLines, List.countP_map]
    rfl
  have hboth : commentedImports ls =
      ((markedLines ls).filter (·.2)).countP fun marked => isImportLine marked.1 := by
    rw [commentedImports, List.countP_filter]
    exact List.countP_congr fun marked _ => by rw [Bool.and_comm]
  rw [hall, hcode, hboth, List.countP_eq_countP_filter_add (markedLines ls) _ (·.2), Nat.add_comm]

/-- A list at one of its members. -/
theorem exists_eq_append_cons {i : Nat} (h : i < ls.length) :
    ∃ above line below, ls = above ++ line :: below ∧ above.length = i :=
  ⟨ls.take i, ls[i], ls.drop (i + 1), by rw [List.getElem_cons_drop, List.take_append_drop],
    by rw [List.length_take, Nat.min_eq_left (Nat.le_of_lt h)]⟩

theorem mem_markedLines_iff {counted : Bool} :
    (line, counted) ∈ markedLines ls ↔
      ∃ above below, ls = above ++ line :: below ∧
        (commentFlags false ls)[above.length]? = some counted := by
  rw [List.mem_iff_getElem?]
  constructor
  · rintro ⟨i, hi⟩
    obtain ⟨hline, hcounted⟩ := List.getElem?_zip_eq_some.mp hi
    obtain ⟨hlt, rfl⟩ := List.getElem?_eq_some_iff.mp hline
    obtain ⟨above, line, below, rfl, rfl⟩ := exists_eq_append_cons hlt
    exact ⟨above, below, by simp, hcounted⟩
  · rintro ⟨above, below, rfl, hcounted⟩
    refine ⟨above.length, List.getElem?_zip_eq_some.mpr ⟨?_, hcounted⟩⟩
    rw [List.getElem?_append_right (Nat.le_refl _), Nat.sub_self, List.getElem?_cons_zero]

theorem commentedImports_eq_zero_iff :
    commentedImports ls = 0 ↔
      ∀ above line below, ls = above ++ line :: below → isImportLine line = true →
        ¬LeavesOpen above := by
  rw [commentedImports, List.countP_eq_zero]
  constructor
  · rintro hnone above line below rfl himport hopen
    have hmarked := mem_markedLines_iff.mpr
      ⟨above, below, rfl, (counted_iff_of_isImportLine himport).mpr hopen⟩
    exact hnone _ hmarked (Bool.and_eq_true_iff.mpr ⟨rfl, himport⟩)
  · rintro hnone ⟨line, counted⟩ hmarked hboth
    obtain ⟨rfl, himport⟩ := Bool.and_eq_true_iff.mp hboth
    obtain ⟨above, below, rfl, hcounted⟩ := mem_markedLines_iff.mp hmarked
    exact hnone above line below rfl himport ((counted_iff_of_isImportLine himport).mp hcounted)

/-- **Lines that count as an import and as comment.** A line that imports counts as comment exactly
where a block comment stays open above it; a line that starts with a mark of a comment never
imports. So the imports are those of the code and those in block comments. The lines that import and
those of comment are no more than all lines exactly if no more imports stand in block comments than
there are other lines of code, in particular if none does. Imports in block comments never raise the
score for imports, and lower it exactly where they pass a cut-off. -/
theorem imports_in_comments (ls : List Line) :
    (∀ above line below, ls = above ++ line :: below → isImportLine line = true →
      ((commentFlags false ls)[above.length]? = some true ↔ LeavesOpen above)) ∧
    importLines ls = importLines (codeLines ls) + commentedImports ls ∧
    (importLines ls + commentLines ls ≤ ls.length ↔
      commentedImports ls ≤ (codeLines ls).countP fun line => !isImportLine line) ∧
    (commentedImports ls = 0 ↔
      ∀ above line below, ls = above ++ line :: below → isImportLine line = true →
        ¬LeavesOpen above) ∧
    couplingScore (importLines ls) ≤ couplingScore (importLines (codeLines ls)) ∧
    (couplingScore (importLines ls) < couplingScore (importLines (codeLines ls)) ↔
      ∃ step ∈ couplingScale.steps,
        (importLines (codeLines ls) : Int) ≤ step.1 ∧ step.1 < importLines ls) := by
  have himports := importLines_eq_add ls
  refine ⟨?_, himports, ?_, commentedImports_eq_zero_iff, couplingScore_mono (by omega),
    couplingScore_lt_iff⟩
  · rintro above line below rfl himport
    exact counted_iff_of_isImportLine himport
  · have hcode := commentLines_add_length_codeLines ls
    have hothers : (codeLines ls).length =
        importLines (codeLines ls) + (codeLines ls).countP fun line => !isImportLine line := by
      rw [List.length_eq_countP_add_countP isImportLine, importLines]
      simp
    omega

/-- Imports in a block comment. -/
def blockOfImports : List Line :=
  ["/*".toList, "import a".toList, "import b".toList, "import c".toList, "import d".toList,
    "*/".toList]

/-- Imports in a block comment count as imports and as comment, and lower the score. -/
theorem imports_in_comments_block :
    blockOfImports.length < importLines blockOfImports + commentLines blockOfImports ∧
      couplingScore (importLines blockOfImports) = 70 ∧
      couplingScore (importLines (codeLines blockOfImports)) = 100 := by
  decide

end Preflight.Source
