import Preflight.Graph.Specifier
import Preflight.Proofs.Text.Blank

/-!
# Specifiers line by line

A form of an import never holds a line break in its specifier, and beyond one it only goes on with a
quotation mark or a parenthesis. So a text that starts with neither is read alike whatever lines
stand before it, and the specifiers of both together are those of each.

## Main definitions

* `StartsAfresh`: a text that goes on with no form of the lines before it.

## Main results

* `scan_append_break`: a form in a text of two parts with a line break between them.
* `mem_importSpecifiers_append_break`: the specifiers of such a text.
* `mem_importSpecifiers_intercalate`: the specifiers of a text of any number of parts.
* `importSpecifiers_line_by_line`: these facts together, and that no specifier is given twice or
  blank.
-/

namespace Preflight

open Preflight.Text

/-- A text goes on with no form of the lines before it: after blanks it starts neither with a
quotation mark nor with a parenthesis. -/
def StartsAfresh (cs : List Char) : Prop :=
  ∀ c ∈ (cs.dropWhile isBlank).head?, isQuote c = false ∧ c ≠ '(' ∧ c ≠ ')'

theorem startsAfresh_iff_all {cs : List Char} :
    ((cs.dropWhile isBlank).head?.all fun c => !isQuote c && c != '(' && c != ')') = true ↔
      StartsAfresh cs := by
  rw [StartsAfresh]
  cases (cs.dropWhile isBlank).head? with
  | none => simp
  | some c => simp [and_assoc]

instance (cs : List Char) : Decidable (StartsAfresh cs) := decidable_of_iff _ startsAfresh_iff_all

/-! ### Forms before a line break -/

variable {form : ImportForm} {cs b : List Char}

theorem dropWhile_isBlank_append_break_of_nil (h : cs.dropWhile isBlank = []) (b : List Char) :
    (cs ++ '\n' :: b).dropWhile isBlank = b.dropWhile isBlank := by
  have hbreak : isBlank '\n' = true := by decide
  rw [List.dropWhile_append, h]
  exact List.dropWhile_cons_of_pos hbreak

theorem dropWhile_isBlank_append_break_of_cons {c : Char} {rest : List Char}
    (h : cs.dropWhile isBlank = c :: rest) (b : List Char) :
    (cs ++ '\n' :: b).dropWhile isBlank = c :: (rest ++ '\n' :: b) := by
  rw [List.dropWhile_append, h]
  rfl

theorem dropWord?_append_break {w : List Char} (hw : '\n' ∉ w) (cs b : List Char) :
    dropWord? w (cs ++ '\n' :: b) = (dropWord? w cs).map (· ++ '\n' :: b) := by
  induction w generalizing cs with
  | nil => simp [dropWord?]
  | cons x w ih =>
    obtain ⟨hx, hw⟩ := List.ne_and_not_mem_of_not_mem_cons hw
    cases cs with
    | nil => simp [dropWord?, Ne.symm hx]
    | cons c cs =>
      rw [List.cons_append, dropWord?, dropWord?]
      split
      · exact ih hw cs
      · rfl

theorem dropMark?_append_break {mark : Char} (hmark : mark = '(' ∨ mark = ')') (hb : StartsAfresh b)
    (cs : List Char) :
    dropMark? mark (cs ++ '\n' :: b) = (dropMark? mark cs).map (· ++ '\n' :: b) := by
  rw [dropMark?, dropMark?]
  cases hcs : cs.dropWhile isBlank with
  | cons c rest =>
    rw [dropWhile_isBlank_append_break_of_cons hcs]
    dsimp only
    split <;> rfl
  | nil =>
    -- the mark would be the first character after the break
    rw [dropWhile_isBlank_append_break_of_nil hcs]
    cases hfirst : b.dropWhile isBlank with
    | nil => rfl
    | cons c rest =>
      obtain ⟨-, hopen, hclose⟩ := hb c (by rw [hfirst]; rfl)
      refine if_neg ?_
      rintro rfl
      rcases hmark with rfl | rfl
      · exact hopen rfl
      · exact hclose rfl

theorem readQuoted?_append_break (hb : StartsAfresh b) (cs : List Char) :
    readQuoted? (cs ++ '\n' :: b) =
      (readQuoted? cs).map fun (spec, rest) => (spec, rest ++ '\n' :: b) := by
  rw [readQuoted?, readQuoted?]
  cases hcs : cs.dropWhile isBlank with
  | cons q rest =>
    rw [dropWhile_isBlank_append_break_of_cons hcs]
    dsimp only
    rw [List.dropWhile_append]
    cases hrest : rest.dropWhile isSpecifierChar with
    | nil =>
      -- the specifier would hold the line break
      have hbreak : ('\n' :: b).dropWhile isSpecifierChar = '\n' :: b :=
        List.dropWhile_cons_of_neg (by decide)
      rw [List.isEmpty_nil, if_pos rfl, hbreak]
      dsimp only
      rw [show isQuote '\n' = false by decide, Bool.and_false, Bool.false_and]
      rfl
    | cons r after =>
      have htake : (rest ++ '\n' :: b).takeWhile isSpecifierChar =
          rest.takeWhile isSpecifierChar := by
        rw [List.takeWhile_append, if_neg]
        intro hlength
        have := congrArg List.length
          (List.takeWhile_append_dropWhile (p := isSpecifierChar) (l := rest))
        rw [hrest, List.length_append, List.length_cons] at this
        omega
      rw [htake, List.isEmpty_cons, if_neg Bool.false_ne_true, List.cons_append]
      dsimp only
      split <;> rfl
  | nil =>
    -- the first quotation mark would be the first character after the break
    rw [dropWhile_isBlank_append_break_of_nil hcs]
    cases hfirst : b.dropWhile isBlank with
    | nil => rfl
    | cons q rest =>
      obtain ⟨hquote, -, -⟩ := hb q (by rw [hfirst]; rfl)
      dsimp only
      rw [hquote]
      split <;> rfl

/-- A form before a line break is read alike whatever comes after the break. -/
theorem ImportForm.read?_append_break (hform : '\n' ∉ form.word.toList) (hb : StartsAfresh b)
    (cs : List Char) :
    form.read? (cs ++ '\n' :: b) =
      (form.read? cs).map fun (spec, rest) => (spec, rest ++ '\n' :: b) := by
  rw [read?, read?, dropWord?_append_break hform]
  cases dropWord? form.word.toList cs with
  | none => rfl
  | some rest =>
    dsimp only [Option.map_some, Option.bind_some]
    split
    · rw [dropMark?_append_break (Or.inl rfl) hb]
      cases dropMark? '(' rest with
      | none => rfl
      | some rest =>
        dsimp only [Option.map_some, Option.bind_some]
        rw [readQuoted?_append_break hb]
        cases readQuoted? rest with
        | none => rfl
        | some read =>
          obtain ⟨spec, rest⟩ := read
          dsimp only [Option.map_some, Option.bind_some]
          rw [dropMark?_append_break (Or.inr rfl) hb, Option.map_map, Option.map_map]
          rfl
    · exact readQuoted?_append_break hb rest

/-! ### Texts of two parts -/

/-- **A form in a text of two parts** with a line break between them, where the second part starts
afresh: what it reads in the first, and then what it reads in the second. -/
theorem scan_append_break (hword : form.word ≠ "") (hform : '\n' ∉ form.word.toList)
    (hb : StartsAfresh b) {n : Nat} (before : Option Char) {a : List Char} (hn : n ≤ a.length) :
    scan form n before (a ++ '\n' :: b) = scan form n before a ++ scan form 0 (some '\n') b := by
  induction a generalizing n before with
  | nil =>
    obtain rfl : n = 0 := Nat.le_zero.mp hn
    -- no word of a form starts with the break
    have hread : form.read? ('\n' :: b) = none := by
      have hchars : form.word.toList ≠ [] := by simpa using hword
      obtain ⟨x, w, hx⟩ := List.exists_cons_of_ne_nil hchars
      have hnone := ImportForm.read?_append_break hform hb []
      rwa [show form.read? [] = none by rw [ImportForm.read?, hx]; rfl] at hnone
    have hscan : scan form 0 before ('\n' :: b) = scan form 0 (some '\n') b := by
      rw [scan, hread, ite_self]
    simpa [scan] using hscan
  | cons c a ih =>
    cases n with
    | succ n => exact ih (some c) (Nat.le_of_succ_le_succ hn)
    | zero =>
      rw [List.cons_append, scan, scan, ← List.cons_append, ImportForm.read?_append_break hform hb]
      cases startsWord before with
      | false => exact ih (some c) (Nat.zero_le _)
      | true =>
        rw [if_pos rfl, if_pos rfl]
        cases form.read? (c :: a) with
        | none => exact ih (some c) (Nat.zero_le _)
        | some read =>
          obtain ⟨spec, rest⟩ := read
          have hlength : (a ++ '\n' :: b).length - (rest ++ '\n' :: b).length =
              a.length - rest.length := by
            simp only [List.length_append]
            omega
          dsimp only [Option.map_some]
          rw [hlength, ih (some c) (Nat.sub_le ..), List.cons_append]

/-- Only whether a word may start after it matters of the character before a text. -/
theorem scan_congr_before {before before' : Option Char}
    (h : startsWord before = startsWord before') (cs : List Char) :
    scan form 0 before cs = scan form 0 before' cs := by
  cases cs with
  | nil => rw [scan, scan]
  | cons c cs => rw [scan, scan, h]

theorem mem_importSpecifiers {text : List Char} {spec : String} :
    spec ∈ importSpecifiers text ↔
      spec ≠ "" ∧ ∃ form ∈ importForms, ∃ raw ∈ scan form 0 none text,
        String.ofList (strip raw) = spec := by
  simp only [importSpecifiers, rawSpecifiers, mem_distinct, List.mem_filter, List.mem_flatMap,
    List.mem_map, decide_eq_true_eq]
  exact and_comm

/-- **The specifiers of a text of two parts** with a line break between them are those of each,
where the second part starts afresh. -/
theorem mem_importSpecifiers_append_break {a : List Char} (hb : StartsAfresh b) {spec : String} :
    spec ∈ importSpecifiers (a ++ '\n' :: b) ↔
      spec ∈ importSpecifiers a ∨ spec ∈ importSpecifiers b := by
  have hforms : ∀ form ∈ importForms, form.word ≠ "" ∧ '\n' ∉ form.word.toList := by decide
  have hbreak : startsWord (some '\n') = startsWord none := by decide +kernel
  simp only [mem_importSpecifiers, ← and_or_left, ← exists_or]
  refine and_congr_right fun _ => exists_congr fun form => and_congr_right fun hform => ?_
  obtain ⟨hword, hline⟩ := hforms form hform
  rw [scan_append_break hword hline hb none (Nat.zero_le _), scan_congr_before hbreak]
  simp only [List.mem_append, or_and_right]

/-! ### Texts of any number of parts -/

/-- What goes on with no form, a line break, and what goes on with no form. -/
theorem StartsAfresh.append_break {a : List Char} (ha : StartsAfresh a) (hb : StartsAfresh b) :
    StartsAfresh (a ++ '\n' :: b) := by
  cases hfirst : a.dropWhile isBlank with
  | nil =>
    rw [StartsAfresh, dropWhile_isBlank_append_break_of_nil hfirst]
    exact hb
  | cons c rest =>
    rw [StartsAfresh, dropWhile_isBlank_append_break_of_cons hfirst, List.head?_cons]
    rwa [StartsAfresh, hfirst, List.head?_cons] at ha

theorem startsAfresh_intercalate {line : List Char} {below : List (List Char)}
    (h : ∀ part ∈ line :: below, StartsAfresh part) :
    StartsAfresh (['\n'].intercalate (line :: below)) := by
  induction below generalizing line with
  | nil =>
    rw [List.intercalate_singleton]
    exact h line (List.mem_singleton_self line)
  | cons next below ih =>
    obtain ⟨hline, hbelow⟩ := List.forall_mem_cons.mp h
    rw [List.intercalate_cons_cons, List.append_assoc]
    exact hline.append_break (ih hbelow)

/-- **The specifiers of a text of any number of parts** with line breaks between them are those of
its parts, where each but the first starts afresh. -/
theorem mem_importSpecifiers_intercalate {first : List Char} {below : List (List Char)}
    (h : ∀ part ∈ below, StartsAfresh part) {spec : String} :
    spec ∈ importSpecifiers (['\n'].intercalate (first :: below)) ↔
      ∃ part ∈ first :: below, spec ∈ importSpecifiers part := by
  induction below generalizing first with
  | nil => simp [List.intercalate_singleton]
  | cons next below ih =>
    obtain ⟨-, hbelow⟩ := List.forall_mem_cons.mp h
    rw [List.intercalate_cons_cons, List.append_assoc, List.singleton_append,
      mem_importSpecifiers_append_break (startsAfresh_intercalate h), ih hbelow]
    simp only [List.mem_cons, exists_eq_or_imp]

/-! ### What a specifier is -/

theorem importSpecifiers_nodup (text : List Char) : (importSpecifiers text).Nodup :=
  nodup_distinct _

theorem isBlankText_of_mem_importSpecifiers {text : List Char} {spec : String}
    (h : spec ∈ importSpecifiers text) : isBlankText spec.toList = false := by
  obtain ⟨hne, -, -, raw, -, rfl⟩ := mem_importSpecifiers.mp h
  rw [String.toList_ofList]
  exact isBlankText_strip fun hnil => hne (by rw [hnil])

/-- **Specifiers line by line.** Where a text starts afresh after a line break, what stands before
the break neither hides a specifier of it nor adds one: the specifiers are those before the break
and those after it. So the specifiers of a file are those of its lines, if each but the first starts
afresh. None is given twice, and none is blank. -/
theorem importSpecifiers_line_by_line {a b : List Char} (hb : StartsAfresh b) :
    (∀ spec, spec ∈ importSpecifiers (a ++ '\n' :: b) ↔
      spec ∈ importSpecifiers a ∨ spec ∈ importSpecifiers b) ∧
    (∀ text, (importSpecifiers text).Nodup ∧
      ∀ spec ∈ importSpecifiers text, isBlankText spec.toList = false) ∧
    ∀ below : List (List Char), (∀ line ∈ below, StartsAfresh line) →
      ∀ spec, spec ∈ importSpecifiers (['\n'].intercalate (a :: below)) ↔
        ∃ line ∈ a :: below, spec ∈ importSpecifiers line :=
  ⟨fun _ => mem_importSpecifiers_append_break hb,
    fun text => ⟨importSpecifiers_nodup text, fun _ => isBlankText_of_mem_importSpecifiers⟩,
    fun _ hbelow _ => mem_importSpecifiers_intercalate hbelow⟩

/-- A quotation mark that is never closed hides nothing on the next line. -/
theorem importSpecifiers_line_by_line_unclosed :
    StartsAfresh "import './b'".toList ∧
      importSpecifiers "require('./a'); s = \"from './c".toList = ["./a"] ∧
      ∀ spec, spec ∈ importSpecifiers
          ("require('./a'); s = \"from './c".toList ++ '\n' :: "import './b'".toList) ↔
        spec = "./a" ∨ spec = "./b" := by
  have hb : StartsAfresh "import './b'".toList := by decide
  have hearlier : importSpecifiers "require('./a'); s = \"from './c".toList = ["./a"] := by
    decide +kernel
  have hlater : importSpecifiers "import './b'".toList = ["./b"] := by decide +kernel
  refine ⟨hb, hearlier, fun spec => ?_⟩
  have h := (importSpecifiers_line_by_line (a := "require('./a'); s = \"from './c".toList) hb).1 spec
  rwa [hearlier, hlater, List.mem_singleton, List.mem_singleton] at h

end Preflight
