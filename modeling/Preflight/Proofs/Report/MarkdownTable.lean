import Mathlib.Algebra.Ring.Nat
import Preflight.Proofs.Text.Numeral
import Preflight.Report.Markdown

/-!
# The table of the document

The document holds a table with a row for each file. Its rows are written as cells between bars, and
the texts in the cells are taken as they are: neither bars nor line breaks in them are escaped. So a
row has as many cells as the head of the table and one more for each bar in its texts, and it takes
up one line and one more for each line break in them.

## Main definitions

* `splitBars`, `rowCells`: the cells of a row, which a reader of the document finds.
* `bars`, `lineBreaks`: what a text does to the row that it stands in.
* `HoldsTable`: where the table stands in the document.
* `WellFormedRow`: a row as the head of the table wants it.

## Main results

* `rowCells_tableCells`: the cells that are read, from those that were written.
* `markdown_rows`: the table of every document, and which of its rows are well-formed.
-/

namespace Preflight

open Preflight.Text

/-! ### Reading a row -/

/-- The parts of a text between its bars. A backslash escapes the character behind it. -/
def splitBars : List Char → List (List Char)
  | [] => [[]]
  | '|' :: rest => [] :: splitBars rest
  | '\\' :: c :: rest => (splitBars rest).modifyHead ('\\' :: c :: ·)
  | c :: rest => (splitBars rest).modifyHead (c :: ·)

theorem splitBars_ne_nil (cs : List Char) : splitBars cs ≠ [] := by
  fun_cases splitBars cs with
  | case1 => exact List.cons_ne_nil _ _
  | case2 rest => exact List.cons_ne_nil _ _
  | case3 c rest =>
    rw [ne_eq, List.modifyHead_eq_nil_iff]
    exact splitBars_ne_nil rest
  | case4 c rest =>
    rw [ne_eq, List.modifyHead_eq_nil_iff]
    exact splitBars_ne_nil rest

theorem splitBars_cons {c : Char} (hbar : c ≠ '|') (hslash : c ≠ '\\') (rest : List Char) :
    splitBars (c :: rest) = (splitBars rest).modifyHead (c :: ·) := by
  rw [splitBars]
  · exact hbar
  · exact fun _ _ h => absurd h hslash

theorem modifyHead_append_of_ne_nil {α : Type} {f : α → α} {xs : List α} (h : xs ≠ [])
    (ys : List α) : (xs ++ ys).modifyHead f = xs.modifyHead f ++ ys := by
  obtain ⟨x, xs, rfl⟩ := List.exists_cons_of_ne_nil h
  rfl

/-- A bar parts what is before it from what is behind it, unless a backslash is right before it. -/
theorem splitBars_append_blank (front rest : List Char) :
    splitBars (front ++ ' ' :: '|' :: rest) = splitBars (front ++ [' ']) ++ splitBars rest := by
  fun_induction splitBars front with
  | case1 => rfl
  | case2 front ih =>
    rw [List.cons_append, List.cons_append, splitBars, splitBars, ih, List.cons_append]
  | case3 c front ih =>
    simp only [List.cons_append, splitBars, ih]
    exact modifyHead_append_of_ne_nil (splitBars_ne_nil _) _
  | case4 c front hbar hslash ih =>
    by_cases hc : c = '\\'
    · -- A backslash at the end escapes the blank.
      cases front with
      | nil => rw [hc]; rfl
      | cons d front => exact absurd rfl (hslash d front hc)
    · rw [List.cons_append, List.cons_append, splitBars_cons hbar hc, splitBars_cons hbar hc, ih]
      exact modifyHead_append_of_ne_nil (splitBars_ne_nil _) _

/-- A character at the end does not change how many parts there are, unless it is a bar. -/
theorem length_splitBars_concat (cs : List Char) {c : Char} (h : c ≠ '|') :
    (splitBars (cs ++ [c])).length = (splitBars cs).length := by
  have hsingle : (splitBars [c]).length = 1 := by
    rw [splitBars, List.length_modifyHead]
    · rfl
    · exact h
    · exact nofun
  fun_induction splitBars cs with
  | case1 => exact hsingle
  | case2 cs ih => rw [List.cons_append, splitBars, List.length_cons, List.length_cons, ih]
  | case3 d cs ih =>
    simp only [List.cons_append, splitBars, List.length_modifyHead, ih]
  | case4 d cs hbar hslash ih =>
    by_cases hd : d = '\\'
    · cases cs with
      | nil => rw [hd]; rfl
      | cons e cs => exact absurd rfl (hslash e cs hd)
    · rw [List.cons_append, splitBars_cons hbar hd, List.length_modifyHead,
        List.length_modifyHead, ih]

theorem length_splitBars_cons {c : Char} (hbar : c ≠ '|') (hslash : c ≠ '\\') (cs : List Char) :
    (splitBars (c :: cs)).length = (splitBars cs).length := by
  rw [splitBars_cons hbar hslash, List.length_modifyHead]

/-- What is in one part is that part. -/
theorem splitBars_eq_singleton {cs : List Char} (h : (splitBars cs).length = 1) :
    splitBars cs = [cs] := by
  fun_induction splitBars cs with
  | case1 => rfl
  | case2 cs ih =>
    exact absurd (List.length_eq_zero_iff.mp (Nat.succ.inj h)) (splitBars_ne_nil cs)
  | case3 c cs ih =>
    rw [List.length_modifyHead] at h
    rw [ih h, List.modifyHead_cons]
  | case4 c cs _ _ ih =>
    rw [List.length_modifyHead] at h
    rw [ih h, List.modifyHead_cons]

theorem splitBars_of_notMem {cs : List Char} (h : '|' ∉ cs) : splitBars cs = [cs] := by
  fun_induction splitBars cs with
  | case1 => rfl
  | case2 cs ih => exact absurd (List.mem_cons_self ..) h
  | case3 c cs ih =>
    have hcs : '|' ∉ cs := fun hmem => h (List.mem_cons_of_mem _ (List.mem_cons_of_mem _ hmem))
    rw [ih hcs, List.modifyHead_cons]
  | case4 c cs _ _ ih => rw [ih (fun hmem => h (List.mem_cons_of_mem _ hmem)), List.modifyHead_cons]

/-- The cells of a row: the parts between its first bar and its last. -/
def rowCells (row : String) : List String :=
  (splitBars row.toList).tail.dropLast.map String.ofList

/-! ### Texts in a row -/

/-- How many bars of a text are not escaped. -/
def bars (s : String) : Nat := (splitBars s.toList).length - 1

/-- How many line breaks are in a text. -/
def lineBreaks (s : String) : Nat := s.toList.countP fun c => c = '\n' || c = '\r'

@[simp] theorem lineBreaks_append (s t : String) :
    lineBreaks (s ++ t) = lineBreaks s + lineBreaks t := by
  rw [lineBreaks, String.toList_append, List.countP_append]
  rfl

theorem length_splitBars (s : String) : (splitBars s.toList).length = bars s + 1 := by
  have hpos := List.length_pos_iff.mpr (splitBars_ne_nil s.toList)
  rw [bars]
  omega

/-- The text of a cell, with the blanks around it. -/
def cellText (s : String) : String := " " ++ s ++ " "

theorem toList_cellText (s : String) : (cellText s).toList = ' ' :: s.toList ++ [' '] := by
  rw [cellText, String.toList_append, String.toList_append]
  rfl

@[simp] theorem bars_cellText (s : String) : bars (cellText s) = bars s := by
  rw [bars, toList_cellText, length_splitBars_concat _ (by decide),
    length_splitBars_cons (by decide) (by decide), bars]

@[simp] theorem bars_codeSpan (s : String) : bars (codeSpan s) = bars s := by
  have hmark : (codeSpan s).toList = '\x60' :: s.toList ++ ['\x60'] := by
    rw [codeSpan, String.toList_append, String.toList_append]
    rfl
  rw [bars, hmark, length_splitBars_concat _ (by decide),
    length_splitBars_cons (by decide) (by decide), bars]

@[simp] theorem lineBreaks_codeSpan (s : String) : lineBreaks (codeSpan s) = lineBreaks s := by
  have hmark : lineBreaks codeMark = 0 := by decide
  rw [codeSpan, lineBreaks_append, lineBreaks_append, hmark, Nat.zero_add, Nat.add_zero]

theorem bars_of_notMem {s : String} (h : '|' ∉ s.toList) : bars s = 0 := by
  rw [bars, splitBars_of_notMem h]
  rfl

theorem lineBreaks_of_notMem {s : String} (hn : '\n' ∉ s.toList) (hr : '\r' ∉ s.toList) :
    lineBreaks s = 0 := by
  refine List.countP_eq_zero.mpr fun c hc => ?_
  rw [Bool.or_eq_true, decide_eq_true_eq, decide_eq_true_eq, not_or]
  exact ⟨fun heq => hn (heq ▸ hc), fun heq => hr (heq ▸ hc)⟩

@[simp] theorem bars_repr_int (n : Int) : bars n.repr = 0 :=
  bars_of_notMem (notMem_toString (by decide) (by decide) n)

@[simp] theorem lineBreaks_repr_int (n : Int) : lineBreaks n.repr = 0 :=
  lineBreaks_of_notMem (notMem_toString (by decide) (by decide) n)
    (notMem_toString (by decide) (by decide) n)

@[simp] theorem bars_repr (n : Nat) : bars n.repr = 0 := bars_repr_int n

@[simp] theorem lineBreaks_repr (n : Nat) : lineBreaks n.repr = 0 := lineBreaks_repr_int n

/-! ### Rows that were written -/

theorem toList_tableCells (cells : List String) :
    (tableCells cells).toList = '|' :: ' ' :: (" | ".intercalate cells).toList ++ [' ', '|'] := by
  rw [tableCells, String.toList_append, String.toList_append]
  rfl

/-- Behind the first bar, each text is read from its own cell, and nothing is behind the last. -/
theorem splitBars_intercalate (cell : String) (more : List String) :
    splitBars (' ' :: (" | ".intercalate (cell :: more)).toList ++ [' ', '|']) =
      (cell :: more).flatMap (fun s => splitBars (cellText s).toList) ++ [[]] := by
  induction more generalizing cell with
  | nil =>
    rw [String.intercalate_singleton, List.flatMap_singleton, toList_cellText]
    exact splitBars_append_blank (' ' :: cell.toList) []
  | cons next more ih =>
    have hbar : " | ".toList = [' ', '|', ' '] := rfl
    have htext : ' ' :: (" | ".intercalate (cell :: next :: more)).toList ++ [' ', '|'] =
        ' ' :: cell.toList ++ ' ' :: '|' ::
          (' ' :: (" | ".intercalate (next :: more)).toList ++ [' ', '|']) := by
      rw [String.intercalate_cons_cons, String.toList_append, String.toList_append, hbar]
      simp
    rw [htext, splitBars_append_blank, ih, @List.flatMap_cons _ _ cell, List.append_assoc,
      toList_cellText]

/-- The cells that are read are those that were written, each cut at its own bars. -/
theorem rowCells_tableCells (cell : String) (more : List String) :
    rowCells (tableCells (cell :: more)) =
      (cell :: more).flatMap fun s => (splitBars (cellText s).toList).map String.ofList := by
  rw [rowCells, toList_tableCells, List.cons_append, splitBars, splitBars_intercalate,
    List.tail_cons, List.dropLast_concat, List.map_flatMap]

theorem length_rowCells_tableCells (cell : String) (more : List String) :
    (rowCells (tableCells (cell :: more))).length =
      (cell :: more).length + ((cell :: more).map bars).sum := by
  rw [rowCells_tableCells]
  generalize cell :: more = cells
  induction cells with
  | nil => rfl
  | cons s cells ih =>
    rw [List.flatMap_cons, List.length_append, ih, List.length_map, length_splitBars,
      bars_cellText, List.length_cons, List.map_cons, List.sum_cons]
    omega

/-- A cell without bars is read as it was written. -/
theorem head?_rowCells_tableCells {cell : String} (h : bars cell = 0) (more : List String) :
    (rowCells (tableCells (cell :: more))).head? = some (cellText cell) := by
  have hone : (splitBars (cellText cell).toList).length = 1 := by
    rw [length_splitBars, bars_cellText, h]
  rw [rowCells_tableCells, List.flatMap_cons, splitBars_eq_singleton hone, List.map_singleton,
    String.ofList_toList]
  rfl

theorem lineBreaks_tableCells (cells : List String) :
    lineBreaks (tableCells cells) = (cells.map lineBreaks).sum := by
  have hopening : lineBreaks "| " = 0 := by decide
  have hclosing : lineBreaks " |" = 0 := by decide
  rw [tableCells, lineBreaks_append, lineBreaks_append, hopening, hclosing, Nat.zero_add,
    Nat.add_zero]
  induction cells with
  | nil => decide
  | cons s cells ih =>
    cases cells with
    | nil => rw [String.intercalate_singleton, List.map_singleton, List.sum_singleton]
    | cons t cells =>
      have hbar : lineBreaks " | " = 0 := by decide
      rw [String.intercalate_cons_cons, lineBreaks_append, lineBreaks_append, hbar, ih,
        Nat.add_zero, ← List.sum_cons, ← List.map_cons]

/-! ### The table of a document -/

/-- Lines as they stand in the document. -/
def linesText (lines : List String) : String := String.join (lines.map fun line => line ++ "\n")

theorem linesText_append (front back : List String) :
    linesText (front ++ back) = linesText front ++ linesText back := by
  rw [linesText, List.map_append, String.join_append]
  rfl

theorem linesText_cons (line : String) (rest : List String) :
    linesText (line :: rest) = line ++ "\n" ++ linesText rest := by
  rw [linesText, List.map_cons, String.join_cons]
  rfl

/-- The document holds a table with this head and these rows. There is an empty line before it, and
an empty line or the end of the document behind it. -/
def HoldsTable (document head rule : String) (rows : List String) : Prop :=
  ∃ front back, document = front ++ "\n\n" ++ linesText (head :: rule :: rows) ++ back ∧
    (back = "" ∨ ∃ rest, back = "\n" ++ rest)

/-- A table among the lines of a document. -/
theorem holdsTable_linesText (front : List String) (title head rule : String)
    (rows : List String) {back : List String} (hback : back = [] ∨ ∃ rest, back = "" :: rest) :
    HoldsTable (linesText (front ++ title :: "" :: head :: rule :: rows ++ back)) head rule
      rows := by
  refine ⟨linesText front ++ title, linesText back, ?_, ?_⟩
  · have hbreaks : "\n\n" = "\n" ++ ("" ++ "\n") := by decide
    rw [linesText_append, linesText_append, linesText_cons title, linesText_cons "", hbreaks]
    simp only [String.append_assoc]
  · obtain rfl | ⟨rest, rfl⟩ := hback
    · exact .inl rfl
    · exact .inr ⟨linesText rest, linesText_cons "" rest⟩

/-- The head of the table, by policy. -/
def markdownHead (policy : Policy) : String :=
  if policy = .score then "| File | Score | Top issue | Fix |"
  else "| File | Risk | Imported by | Untested importers | Briefing |"

theorem length_rowCells_markdownHead (policy : Policy) :
    (rowCells (markdownHead policy)).length = if policy = .score then 4 else 5 := by
  rw [markdownHead]
  split
  · decide
  · decide

/-- The line below the head, by policy. -/
def markdownRule (policy : Policy) : String :=
  if policy = .score then "|---|---:|---|---|" else "|---|---|---:|---:|---|"

/-- The row of a file, by policy. -/
def documentRow (policy : Policy) : FileResult → String :=
  if policy = .score then scoreRow else riskRow

namespace FileResult

/-- The path of a file in the table. -/
def pathInTable (policy : Policy) (f : FileResult) : String :=
  if policy = .score then f.path else f.risk.file

/-- The texts of a file in the table behind its path, by policy: those of its cells that hold no
number. -/
def textsBehindPath (policy : Policy) (f : FileResult) : List String :=
  if policy = .score then [f.score.issues.head?.getD "clean", f.score.issues[1]?.getD ""]
  else [f.risk.level.name, f.risk.briefing]

/-- The texts of a file in the table. -/
def textsInTable (policy : Policy) (f : FileResult) : List String :=
  f.pathInTable policy :: f.textsBehindPath policy

end FileResult

/-- A row as the head of the table wants it: it is one line, with the cells of the head, and the
path of the file is in the first of them. -/
structure WellFormedRow (policy : Policy) (f : FileResult) (row : String) : Prop where
  oneLine : lineBreaks row = 0
  cells : (rowCells row).length = (rowCells (markdownHead policy)).length
  path : (rowCells row).head? = some (cellText (codeSpan (f.pathInTable policy)))

theorem markdownReport_holdsTable (r : AnalysisResult) :
    HoldsTable (markdownReport r) (markdownHead r.policy) (markdownRule r.policy)
      (r.files.map (documentRow r.policy)) := by
  obtain ⟨title, htable⟩ : ∃ title, (if r.policy = .score then scoreDocument r
      else riskDocument r) = title :: "" :: markdownHead r.policy :: markdownRule r.policy ::
        r.files.map (documentRow r.policy) := by
    by_cases hpolicy : r.policy = .score
    · simp only [hpolicy, if_true, markdownHead, markdownRule, documentRow]
      exact ⟨_, rfl⟩
    · simp only [hpolicy, if_false, markdownHead, markdownRule, documentRow]
      exact ⟨_, rfl⟩
  have hreport : markdownReport r = linesText (markdownLines r) := rfl
  rw [hreport, markdownLines, htable]
  refine holdsTable_linesText _ title _ _ _ ?_
  split
  · exact .inl rfl
  · exact .inr ⟨_, rfl⟩

/-- The row of a file starts with its path, and the cells behind it are its other texts among
numbers. -/
theorem exists_documentRow_eq (policy : Policy) (f : FileResult) :
    ∃ more, documentRow policy f = tableCells (codeSpan (f.pathInTable policy) :: more) ∧
      (rowCells (markdownHead policy)).length = more.length + 1 ∧
      (more.map bars).sum = ((f.textsBehindPath policy).map bars).sum ∧
      (more.map lineBreaks).sum = ((f.textsBehindPath policy).map lineBreaks).sum := by
  rw [length_rowCells_markdownHead]
  by_cases hpolicy : policy = .score
  · simp only [hpolicy, documentRow, FileResult.pathInTable, FileResult.textsBehindPath, if_true]
    exact ⟨_, rfl, rfl, by simp, by simp⟩
  · simp only [hpolicy, documentRow, FileResult.pathInTable, FileResult.textsBehindPath, if_false]
    exact ⟨_, rfl, rfl, by simp, by simp⟩

theorem length_rowCells_documentRow (policy : Policy) (f : FileResult) :
    (rowCells (documentRow policy f)).length =
      (rowCells (markdownHead policy)).length + ((f.textsInTable policy).map bars).sum := by
  obtain ⟨more, hrow, hhead, hbars, -⟩ := exists_documentRow_eq policy f
  rw [hrow, length_rowCells_tableCells, hhead, FileResult.textsInTable, List.map_cons,
    List.map_cons, List.sum_cons, List.sum_cons, hbars, bars_codeSpan, List.length_cons]

theorem lineBreaks_documentRow (policy : Policy) (f : FileResult) :
    lineBreaks (documentRow policy f) = ((f.textsInTable policy).map lineBreaks).sum := by
  obtain ⟨more, hrow, -, -, hbreaks⟩ := exists_documentRow_eq policy f
  rw [hrow, lineBreaks_tableCells, FileResult.textsInTable, List.map_cons, List.map_cons,
    List.sum_cons, List.sum_cons, hbreaks, lineBreaks_codeSpan]

theorem wellFormedRow_documentRow_iff (policy : Policy) (f : FileResult) :
    WellFormedRow policy f (documentRow policy f) ↔
      ∀ t ∈ f.textsInTable policy, bars t = 0 ∧ lineBreaks t = 0 := by
  have hsum {measure : String → Nat} :
      ((f.textsInTable policy).map measure).sum = 0 ↔
        ∀ t ∈ f.textsInTable policy, measure t = 0 := by
    rw [List.sum_eq_zero_iff_forall_eq_nat, List.forall_mem_map]
  constructor
  · intro h t ht
    have hbars : ((f.textsInTable policy).map bars).sum = 0 := by
      have hcells := h.cells
      rw [length_rowCells_documentRow] at hcells
      omega
    have hbreaks := h.oneLine
    rw [lineBreaks_documentRow] at hbreaks
    exact ⟨hsum.mp hbars t ht, hsum.mp hbreaks t ht⟩
  · intro h
    obtain ⟨more, hrow, -⟩ := exists_documentRow_eq policy f
    have hpath : bars (codeSpan (f.pathInTable policy)) = 0 := by
      rw [bars_codeSpan]
      exact (h _ (List.mem_cons_self ..)).1
    refine ⟨?_, ?_, ?_⟩
    · rw [lineBreaks_documentRow, hsum.mpr fun t ht => (h t ht).2]
    · rw [length_rowCells_documentRow, hsum.mpr fun t ht => (h t ht).1, Nat.add_zero]
    · rw [hrow, head?_rowCells_tableCells hpath]

/-- The document holds a table with one row for each file, in their order, below a head of four
cells or five. A row has a cell more for each bar in the texts of its file, and it takes up a line
more for each line break in them; so it is well-formed exactly if there are none. -/
theorem markdown_rows (r : AnalysisResult) :
    HoldsTable (markdownReport r) (markdownHead r.policy) (markdownRule r.policy)
        (r.files.map (documentRow r.policy)) ∧
      (rowCells (markdownHead r.policy)).length = (if r.policy = .score then 4 else 5) ∧
      ∀ f : FileResult,
        (rowCells (documentRow r.policy f)).length =
          (rowCells (markdownHead r.policy)).length + ((f.textsInTable r.policy).map bars).sum ∧
        lineBreaks (documentRow r.policy f) = ((f.textsInTable r.policy).map lineBreaks).sum ∧
        (WellFormedRow r.policy f (documentRow r.policy f) ↔
          ∀ t ∈ f.textsInTable r.policy, bars t = 0 ∧ lineBreaks t = 0) := by
  exact ⟨markdownReport_holdsTable r, length_rowCells_markdownHead r.policy, fun f =>
    ⟨length_rowCells_documentRow r.policy f, lineBreaks_documentRow r.policy f,
      wellFormedRow_documentRow_iff r.policy f⟩⟩

/-- A result for one file, which has a bar in its name. -/
def barredResult : AnalysisResult :=
  { policy := .score
    projectRoot := "/p"
    files := [{
      facts := { path := "a|b.ts" }
      score := { path := "a|b.ts", score := 90 }
      risk := { file := "a|b.ts", level := .low } }]
    overall := 100
    counts := {}
    summary := "" }

/-- The row of a file with a bar in its name has a cell too many, and part of the name is in the
first of them. -/
theorem markdown_row_of_bar :
    markdownReport barredResult = "# ai-ready report\n\nProject root: `/p`\n\n" ++
        "**Overall: 100/100** ✓ AI-ready\n\n| File | Score | Top issue | Fix |\n" ++
        "|---|---:|---|---|\n| `a|b.ts` | 90 | clean |  |\n" ∧
      rowCells "| `a|b.ts` | 90 | clean |  |" = [" `a", "b.ts` ", " 90 ", " clean ", "  "] ∧
      (rowCells (markdownHead .score)).length = 4 := by
  decide +kernel

end Preflight
