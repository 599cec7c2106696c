import Preflight.Path

/-!
# Paths and their text

A path whose segments hold no slash is read back from its text. Joined to the top of a
project, the text under which a file is seen from there leads back to the file, whether the file
lies below the top or not.

## Main definitions

* `isFileName`: a segment that can be the name of a file.
* `Path.Readable`: segments that are told apart in a text.

## Main results

* `Path.ofString_text_of_readable`, `Path.ofString_text`: a path is read back from its text.
* `Path.join_ofString_seenFrom`: what a file is called from a directory leads back to it.
-/

namespace Preflight

/-- A segment that can be the name of a file: it is not empty, does not say where to go, and
holds no slash. -/
def isFileName (s : String) : Bool :=
  Path.isSegment s && s != ".." && !s.toList.contains '/'

theorem isFileName_iff {s : String} :
    isFileName s = true ↔ s ≠ "" ∧ s ≠ "." ∧ s ≠ ".." ∧ '/' ∉ s.toList := by
  simp [isFileName, Path.isSegment, and_assoc]

theorem isSegment_of_isFileName {s : String} (h : isFileName s = true) :
    Path.isSegment s = true := by
  obtain ⟨hempty, hdot, -⟩ := isFileName_iff.mp h
  simp [Path.isSegment, hempty, hdot]

/-! ### Splitting -/

theorem splitChar_eq_splitOn (sep : Char) (cs : List Char) :
    Text.splitChar sep cs = cs.splitOn sep := by
  induction cs with
  | nil => rfl
  | cons c rest ih =>
    rw [List.splitOn_cons_eq_if_modifyHead, ← ih]
    by_cases h : c = sep
    · simp [Text.splitChar, h]
    · obtain ⟨part, more, hparts⟩ := List.exists_cons_of_ne_nil (Text.splitChar_ne_nil sep rest)
      have hcons : Text.splitChar sep (c :: rest) = (c :: part) :: more := by
        rw [Text.splitChar, List.foldr_cons, ← Text.splitChar, if_neg h, hparts]
      simp [hcons, hparts, h]

/-- Parts keep the order of what they are parts of, and hold no separator. -/
theorem sublist_of_mem_splitOn {α : Type} [DecidableEq α] {x : α} {xs part : List α}
    (h : part ∈ xs.splitOn x) : part.Sublist xs ∧ x ∉ part := by
  induction xs generalizing part with
  | nil => simp_all
  | cons y xs ih =>
    rw [List.splitOn_cons_eq_if_modifyHead] at h
    split at h
    · rcases List.mem_cons.mp h with rfl | h
      · exact ⟨List.nil_sublist _, List.not_mem_nil⟩
      · exact ⟨(ih h).1.cons _, (ih h).2⟩
    · next hy =>
      obtain ⟨first, more, hparts⟩ := List.exists_cons_of_ne_nil (List.splitOn_ne_nil x xs)
      rw [hparts, List.modifyHead_cons, List.mem_cons] at h
      rcases h with rfl | h
      · obtain ⟨hsublist, hmem⟩ := ih (hparts ▸ List.mem_cons_self ..)
        have hne : y ≠ x := by simpa using hy
        exact ⟨hsublist.cons_cons _, List.not_mem_cons_of_ne_of_not_mem hne.symm hmem⟩
      · obtain ⟨hsublist, hmem⟩ := ih (hparts ▸ List.mem_cons_of_mem _ h)
        exact ⟨hsublist.cons _, hmem⟩

theorem splitString_intercalate {segments : List String} (hne : segments ≠ [])
    (h : ∀ s ∈ segments, '/' ∉ s.toList) :
    Text.splitString '/' ("/".intercalate segments) = segments := by
  have hslash : "/".toList = ['/'] := rfl
  rw [Text.splitString, splitChar_eq_splitOn, String.toList_intercalate, hslash,
    List.splitOn_intercalate '/' (by simpa using h) (by simpa using hne), List.map_map]
  simp [Function.comp_def]

namespace Path

/-- Segments that are told apart in a text: each says where to go, and none holds a slash. -/
def Readable (segments : List String) : Prop :=
  ∀ s ∈ segments, isSegment s = true ∧ '/' ∉ s.toList

theorem readable_of_isFileName {segments : List String}
    (h : ∀ s ∈ segments, isFileName s = true) : Readable segments := fun s hs =>
  ⟨isSegment_of_isFileName (h s hs), (isFileName_iff.mp (h s hs)).2.2.2⟩

theorem segmentsOf_intercalate {segments : List String} (h : Readable segments) :
    segmentsOf ("/".intercalate segments) = segments := by
  by_cases hne : segments = []
  · subst hne
    rfl
  · rw [segmentsOf, splitString_intercalate hne fun s hs => (h s hs).2]
    exact List.filter_eq_self.mpr fun s hs => (h s hs).1

/-- A slash in front of a text adds no segment. -/
theorem segmentsOf_slash (s : String) : segmentsOf ("/" ++ s) = segmentsOf s := by
  have hsplit : Text.splitString '/' ("/" ++ s) = "" :: Text.splitString '/' s := by
    rw [Text.splitString, String.toList_append, show "/".toList = ['/'] from rfl,
      List.singleton_append, Text.splitChar_cons_self]
    rfl
  rw [segmentsOf, hsplit, List.filter_cons_of_neg (by decide), segmentsOf]

/-! ### Reading a path back -/

/-- Joined segments do not start with a slash. -/
theorem head?_intercalate_ne_slash {segments : List String} (h : Readable segments) :
    ("/".intercalate segments).toList.head? ≠ some '/' := by
  cases segments with
  | nil => decide
  | cons s rest =>
    obtain ⟨hsegment, hslash⟩ := h s (List.mem_cons_self ..)
    have hempty : s ≠ "" := fun hs => absurd hsegment (by rw [hs]; decide)
    obtain ⟨c, cs, hcs⟩ : ∃ c cs, s.toList = c :: cs :=
      List.exists_cons_of_ne_nil (by simpa using hempty)
    have hc : c ≠ '/' := fun hc => hslash (by simp [hcs, hc])
    have hhead : ("/".intercalate (s :: rest)).toList.head? = some c := by
      rw [String.toList_intercalate]
      cases rest with
      | nil => simp [hcs]
      | cons t more => simp [List.intercalate_cons_cons, hcs]
    rw [hhead]
    simpa using hc

theorem ofChars_here {cs : List Char} (h : cs.head? ≠ some '/') : Anchor.ofChars cs = .here := by
  cases cs with
  | nil => rfl
  | cons c rest => simp_all [Anchor.ofChars]

theorem ofChars_top {cs : List Char} (h : cs.head? ≠ some '/') :
    Anchor.ofChars ('/' :: cs) = .top := by
  cases cs with
  | nil => rfl
  | cons c rest => simp_all [Anchor.ofChars]

theorem ofChars_doubled {cs : List Char} (h : cs.head? ≠ some '/') :
    Anchor.ofChars ('/' :: '/' :: cs) = .doubled := by
  cases cs with
  | nil => rfl
  | cons c rest => simp_all [Anchor.ofChars]

/-- **Reading back.** A path whose segments are told apart in a text is the one its text denotes. -/
theorem ofString_text_of_readable (p : Path) (h : Readable p.segments) : ofString p.text = p := by
  obtain ⟨anchor, segments⟩ := p
  have hhead := head?_intercalate_ne_slash h
  have hsegments : segmentsOf ("/".intercalate segments) = segments := segmentsOf_intercalate h
  cases anchor with
  | here =>
    cases segments with
    | nil => rfl
    | cons s rest =>
      rw [show text ⟨.here, s :: rest⟩ = "" ++ "/".intercalate (s :: rest) from rfl,
        String.empty_append, ofString, ofChars_here hhead, hsegments]
  | top =>
    rw [show text ⟨.top, segments⟩ = "/" ++ "/".intercalate segments by cases segments <;> rfl,
      ofString, segmentsOf_slash, hsegments, String.toList_append,
      show "/".toList = ['/'] from rfl, List.singleton_append, ofChars_top hhead]
  | doubled =>
    rw [show text ⟨.doubled, segments⟩ = "//" ++ "/".intercalate segments by
        cases segments <;> rfl,
      ofString, show "//" = "/" ++ "/" from rfl, String.append_assoc, segmentsOf_slash,
      segmentsOf_slash, hsegments, String.toList_append, String.toList_append,
      show "/".toList = ['/'] from rfl, List.singleton_append, List.singleton_append,
      ofChars_doubled hhead]

/-- A path whose segments are names of files is the one its text denotes. -/
theorem ofString_text (p : Path) (h : ∀ s ∈ p.segments, isFileName s = true) :
    ofString p.text = p :=
  ofString_text_of_readable p (readable_of_isFileName h)

/-! ### Suffixes -/

/-- The suffix of a name is at its end. -/
theorem exists_eq_append_suffixOf (name : String) :
    ∃ front, name.toList = front ++ (suffixOf name).toList := by
  -- read from its end, a name starts with what comes after its last dot
  have hsplit := List.takeWhile_append_dropWhile (p := fun c => decide (c ≠ '.'))
    (l := name.toList.reverse)
  rw [suffixOf]
  split
  · next h =>
    obtain ⟨hlength, -⟩ := (Bool.and_eq_true _ _).mp h
    rw [decide_eq_true_eq] at hlength
    cases hrest : name.toList.reverse.dropWhile fun c => decide (c ≠ '.') with
    | nil =>
      have := congrArg List.length hsplit
      rw [hrest, List.append_nil, List.length_reverse] at this
      omega
    | cons dot front =>
      have hdot := List.head?_dropWhile_not (fun c => decide (c ≠ '.')) name.toList.reverse
      rw [hrest] at hdot hsplit
      obtain rfl : dot = '.' := by simpa using hdot
      refine ⟨front.reverse, ?_⟩
      rw [String.toList_ofList, ← List.reverse_inj, List.reverse_append, List.reverse_cons,
        List.reverse_reverse, List.reverse_reverse, List.append_assoc, List.singleton_append]
      exact hsplit.symm
  · exact ⟨name.toList, by simp⟩

/-! ### Names seen from a directory -/

theorem eq_join_of_relativeTo?_eq_some {p root rel : Path} (h : p.relativeTo? root = some rel) :
    p = root.join rel ∧ rel.anchor = .here ∧ p.segments = root.segments ++ rel.segments := by
  rw [relativeTo?] at h
  split at h
  · next hanchor =>
    obtain ⟨segments, hsegments, rfl⟩ := Option.map_eq_some_iff.mp h
    rw [dropSegments?_eq_some] at hsegments
    obtain ⟨anchor, all⟩ := p
    simp only at hanchor hsegments
    subst hanchor hsegments
    exact ⟨rfl, rfl, rfl⟩
  · cases h

/-- What a file is called from a directory leads from the directory to the file. -/
theorem join_ofString_seenFrom {root file : Path} (hfile : file.isAbsolute = true)
    (h : ∀ s ∈ file.segments, isFileName s = true) :
    root.join (ofString (file.seenFrom root)) = file := by
  rw [seenFrom]
  cases hrel : file.relativeTo? root with
  | none =>
    rw [Option.getD_none, ofString_text file h, join, if_pos hfile]
  | some rel =>
    obtain ⟨hjoin, -, hsegments⟩ := eq_join_of_relativeTo?_eq_some hrel
    have hnames : ∀ s ∈ rel.segments, isFileName s = true := by
      intro s hs
      exact h s (by rw [hsegments]; exact List.mem_append_right _ hs)
    rw [Option.getD_some, ofString_text rel hnames, ← hjoin]

end Path

end Preflight
