import Preflight.Proofs.Graph.Extensionality
import Preflight.Proofs.Graph.Specifier

/-!
# Imports in comments

Specifiers are looked for in the bare text of a file, so that an import that stands in a comment
counts. A line that is a comment adds to the imports of its file exactly those that its own text
names, and takes part in no form that stands on other lines, unless the line below goes on with a
quotation mark or a parenthesis.

## Main definitions

* `joinLines`: the text of some lines.

## Main results

* `mem_importSpecifiers_joinLines`: the specifiers above and from a line on.
* `commented_imports`: what a comment line adds to the imports, and when it changes the
  dependencies.
* `commented_import_counts`: a comment that changes the dependencies.
-/

namespace Preflight

open Preflight.Text

/-! ### Texts line by line -/

/-- The text of some lines. -/
def joinLines (lines : List (List Char)) : List Char := ['\n'].intercalate lines

theorem joinLines_singleton (line : List Char) : joinLines [line] = line :=
  List.intercalate_singleton

theorem joinLines_cons {line : List Char} {below : List (List Char)} (h : below ≠ []) :
    joinLines (line :: below) = line ++ '\n' :: joinLines below := by
  rw [joinLines, List.intercalate_cons_of_ne_nil h, List.append_assoc]
  rfl

theorem joinLines_append {above below : List (List Char)} (habove : above ≠ [])
    (hbelow : below ≠ []) :
    joinLines (above ++ below) = joinLines above ++ '\n' :: joinLines below := by
  induction above with
  | nil => exact absurd rfl habove
  | cons line above ih =>
    by_cases h : above = []
    · subst h
      rw [joinLines_singleton, List.singleton_append, joinLines_cons hbelow]
    · rw [List.cons_append, joinLines_cons (by simp [h]), ih h, joinLines_cons h, List.append_assoc,
        List.cons_append]

variable {above below : List (List Char)} {line : List Char} {spec : String}

theorem not_mem_importSpecifiers_nil : spec ∉ importSpecifiers [] := by
  have hnone : importSpecifiers [] = [] := rfl
  rw [hnone]
  exact List.not_mem_nil

/-- The specifiers of the lines above and those from a line on. -/
theorem mem_importSpecifiers_joinLines (h : StartsAfresh (joinLines (line :: below))) :
    spec ∈ importSpecifiers (joinLines (above ++ line :: below)) ↔
      spec ∈ importSpecifiers (joinLines above) ∨
        spec ∈ importSpecifiers (joinLines (line :: below)) := by
  by_cases habove : above = []
  · subst habove
    exact (or_iff_right not_mem_importSpecifiers_nil).symm
  · rw [joinLines_append habove (List.cons_ne_nil line below), mem_importSpecifiers_append_break h]

/-- The specifiers of a line and those of the lines below. -/
theorem mem_importSpecifiers_joinLines_cons (h : StartsAfresh (joinLines below)) :
    spec ∈ importSpecifiers (joinLines (line :: below)) ↔
      spec ∈ importSpecifiers line ∨ spec ∈ importSpecifiers (joinLines below) := by
  by_cases hbelow : below = []
  · subst hbelow
    rw [joinLines_singleton]
    exact (or_iff_left not_mem_importSpecifiers_nil).symm
  · rw [joinLines_cons hbelow, mem_importSpecifiers_append_break h]

/-! ### Comment lines -/

/-- A comment goes on with no form of the lines before it. -/
theorem startsAfresh_of_comment (h : ['/', '/'] <+: strip line) (rest : List Char) :
    StartsAfresh (line ++ rest) := by
  obtain ⟨after, hafter⟩ := h.trans (strip_isPrefixOf_dropWhile line)
  intro c hc
  rw [List.dropWhile_append, ← hafter] at hc
  obtain rfl : '/' = c := Option.some.inj hc
  decide

theorem startsAfresh_blank_line (h : StartsAfresh (joinLines below)) :
    StartsAfresh (joinLines ([] :: below)) := by
  by_cases hbelow : below = []
  · subst hbelow
    decide
  · have hbreak : isBlank '\n' = true := by decide
    rw [joinLines_cons hbelow, List.nil_append, StartsAfresh, List.dropWhile_cons_of_pos hbreak]
    exact h

theorem startsAfresh_joinLines_comment (hcomment : ['/', '/'] <+: strip line) :
    StartsAfresh (joinLines (line :: below)) := by
  by_cases h : below = []
  · subst h
    simpa [joinLines_singleton] using startsAfresh_of_comment hcomment []
  · rw [joinLines_cons h]
    exact startsAfresh_of_comment hcomment _

/-- Where the text below a comment line starts afresh, the line adds the specifiers it holds
itself. -/
theorem mem_importSpecifiers_comment (hcomment : ['/', '/'] <+: strip line)
    (hbelow : StartsAfresh (joinLines below)) :
    spec ∈ importSpecifiers (joinLines (above ++ line :: below)) ↔
      spec ∈ importSpecifiers (joinLines (above ++ [] :: below)) ∨
        spec ∈ importSpecifiers line := by
  rw [mem_importSpecifiers_joinLines (startsAfresh_joinLines_comment hcomment),
    mem_importSpecifiers_joinLines_cons hbelow,
    mem_importSpecifiers_joinLines (startsAfresh_blank_line hbelow),
    mem_importSpecifiers_joinLines_cons hbelow, or_iff_right not_mem_importSpecifiers_nil, or_assoc,
    or_comm (a := spec ∈ importSpecifiers line)]

/-! ### Projects with a comment line -/

/-- The files of a project, one of them with given lines. -/
def withLines (front : List (FileId × String)) (id : FileId) (lines : List (List Char))
    (back : List (FileId × String)) : List (FileId × String) :=
  front ++ (id, String.ofList (joinLines lines)) :: back

variable {front back : List (FileId × String)} {id m n : FileId}

theorem map_fst_withLines (lines lines' : List (List Char)) :
    (withLines front id lines back).map (·.1) = (withLines front id lines' back).map (·.1) := by
  simp [withLines]

/-- An import of such a project is one of the other files or one of these lines. -/
theorem imports_withLines_iff {lines : List (List Char)} :
    Imports (withLines front id lines back) m n ↔
      (∃ text, (m, text) ∈ front ++ back ∧ ∃ spec ∈ importSpecifiers text.toList,
        resolveSpecifier? spec m ((withLines front id lines back).map (·.1)) = some n) ∨
      m = id ∧ ∃ spec ∈ importSpecifiers (joinLines lines),
        resolveSpecifier? spec id ((withLines front id lines back).map (·.1)) = some n := by
  have hmem : ∀ text, (m, text) ∈ withLines front id lines back ↔
      (m, text) ∈ front ++ back ∨ m = id ∧ text = String.ofList (joinLines lines) := by
    intro text
    simp only [withLines, List.mem_append, List.mem_cons, Prod.mk.injEq]
    rw [or_left_comm, or_comm]
  simp only [Imports, hmem, or_and_right, exists_or]
  refine or_congr_right ?_
  constructor
  · rintro ⟨-, ⟨rfl, rfl⟩, hspec⟩
    rw [String.toList_ofList] at hspec
    exact ⟨rfl, hspec⟩
  · rintro ⟨rfl, hspec⟩
    refine ⟨_, ⟨rfl, rfl⟩, ?_⟩
    rw [String.toList_ofList]
    exact hspec

/-- **What a comment line adds.** The lines above it are read as if the file ended with them. Where
the text below starts afresh, the file has the imports it has without the line, and those that the
text of the comment names; so the line changes the dependencies of the project exactly where it
names a file that is not imported otherwise. -/
theorem commented_imports (hcomment : ['/', '/'] <+: strip line) :
    (∀ spec, spec ∈ importSpecifiers (joinLines (above ++ line :: below)) ↔
      spec ∈ importSpecifiers (joinLines above) ∨
        spec ∈ importSpecifiers (joinLines (line :: below))) ∧
    (StartsAfresh (joinLines below) →
      (∀ m n, Imports (withLines front id (above ++ line :: below) back) m n ↔
        Imports (withLines front id (above ++ [] :: below) back) m n ∨
          m = id ∧ ∃ spec ∈ importSpecifiers line,
            resolveSpecifier? spec id
              ((withLines front id (above ++ [] :: below) back).map (·.1)) = some n) ∧
      ((ImportGraph.ofSources (withLines front id (above ++ line :: below) back)).dependencies =
          (ImportGraph.ofSources (withLines front id (above ++ [] :: below) back)).dependencies ↔
        ∀ spec ∈ importSpecifiers line, ∀ n,
          resolveSpecifier? spec id
              ((withLines front id (above ++ [] :: below) back).map (·.1)) = some n →
            Imports (withLines front id (above ++ [] :: below) back) id n)) := by
  refine ⟨fun spec => mem_importSpecifiers_joinLines (startsAfresh_joinLines_comment hcomment),
    fun hbelow => ?_⟩
  have hids : (withLines front id (above ++ line :: below) back).map (·.1) =
      (withLines front id (above ++ [] :: below) back).map (·.1) := map_fst_withLines _ _
  have himports : ∀ m n, Imports (withLines front id (above ++ line :: below) back) m n ↔
      Imports (withLines front id (above ++ [] :: below) back) m n ∨
        m = id ∧ ∃ spec ∈ importSpecifiers line,
          resolveSpecifier? spec id
            ((withLines front id (above ++ [] :: below) back).map (·.1)) = some n := by
    intro m n
    rw [imports_withLines_iff, imports_withLines_iff, hids]
    simp only [mem_importSpecifiers_comment hcomment hbelow, or_and_right, exists_or, and_or_left,
      or_assoc]
  refine ⟨himports, ?_⟩
  rw [dependencies_eq_iff hids]
  constructor
  · intro h spec hspec n hn
    exact (h id n).mp ((himports id n).mpr (Or.inr ⟨rfl, spec, hspec, hn⟩))
  · intro h m n
    rw [himports]
    refine or_iff_left_of_imp ?_
    rintro ⟨rfl, spec, hspec, hn⟩
    exact h spec hspec n hn

/-- A commented import is the only one of its file, and changes the dependencies. -/
theorem commented_import_counts :
    ['/', '/'] <+: strip "// import './b'".toList ∧ StartsAfresh (joinLines []) ∧
      (ImportGraph.ofSources
          (withLines [] "a.ts" ["// import './b'".toList] [("b.ts", "")])).dependencies ≠
        (ImportGraph.ofSources (withLines [] "a.ts" [[]] [("b.ts", "")])).dependencies := by
  have hcomment : ['/', '/'] <+: strip "// import './b'".toList := by decide
  have hbelow : StartsAfresh (joinLines []) := by decide
  refine ⟨hcomment, hbelow, fun h => ?_⟩
  obtain ⟨-, hdependencies⟩ :=
    (@commented_imports [] [] _ [] [("b.ts", "")] "a.ts" hcomment).2 hbelow
  have hresolve : resolveSpecifier? "./b" "a.ts" ["a.ts", "b.ts"] = some "b.ts" := by
    decide +kernel
  have himport := hdependencies.mp h "./b" (by decide +kernel) "b.ts" hresolve
  exact absurd himport (by decide +kernel)

end Preflight
