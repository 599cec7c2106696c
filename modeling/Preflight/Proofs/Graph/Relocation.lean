import Preflight.Graph.Resolve
import Preflight.Proofs.FileTree.PathText

/-!
# Imports of a project that is moved into a directory

What a specifier names depends on where the files of a project are with respect to each other. If
the project becomes a directory of another one, its specifiers name the same files there, as long as
they lead to something below its top. The top itself is the exception: from outside, a specifier
that leads to it names the index file in it, but within the project that index file is not looked
for.

## Main definitions

* `FileId.WellFormed`: an id that is made of names of files.
* `FileId.movedTo`: the id of a file after the project was moved into a directory.
* `stepsTo`: the segments a specifier names from the top of the project.
* `indexFiles`: the ids of index files, as seen from the directory they are in.

## Main results

* `importTarget?_eq_some_iff`: where a specifier leads.
* `importTarget?_movedTo`: where it leads in a moved project.
* `targetCandidates_movedTo`: the ids that are tried there.
* `resolveSpecifier?_movedTo`: what a specifier names there.
* `index_of_top_unnoticed`: an index file that is found only after a move.
-/

namespace Preflight

/-- An id that is made of names of files. -/
def FileId.WellFormed (id : FileId) : Prop :=
  ∃ names, names ≠ [] ∧ (∀ s ∈ names, isFileName s = true) ∧ id = "/".intercalate names

/-- The id of a file after the project was moved into a directory. -/
def FileId.movedTo (directory : String) (id : FileId) : FileId := directory ++ "/" ++ id

theorem FileId.toList_movedTo (directory : String) (id : FileId) :
    (id.movedTo directory).toList = directory.toList ++ '/' :: id.toList := by
  simp [movedTo]

theorem FileId.movedTo_injective (directory : String) : Function.Injective (movedTo directory) := by
  intro a b h
  have hchars := congrArg String.toList h
  rw [toList_movedTo, toList_movedTo, List.append_cancel_left_eq, List.cons.injEq] at hchars
  exact String.toList_inj.mp hchars.2

/-! ### Segments -/

namespace Path

theorem segmentsOf_movedTo (directory : String) (id : FileId) :
    segmentsOf (id.movedTo directory) = segmentsOf directory ++ segmentsOf id := by
  rw [segmentsOf, segmentsOf, segmentsOf, Text.splitString, FileId.toList_movedTo,
    splitChar_eq_splitOn, List.splitOn_append_cons_self, List.map_append, List.filter_append,
    Text.splitString, Text.splitString, splitChar_eq_splitOn, splitChar_eq_splitOn]

/-- Each segment of a text is a part of it, and they are told apart in it. -/
theorem sublist_of_mem_segmentsOf {s t : String} (h : t ∈ segmentsOf s) :
    t.toList.Sublist s.toList ∧ isSegment t = true ∧ '/' ∉ t.toList := by
  obtain ⟨hmem, hsegment⟩ := List.mem_filter.mp h
  obtain ⟨part, hpart, rfl⟩ := List.mem_map.mp hmem
  rw [splitChar_eq_splitOn] at hpart
  rw [String.toList_ofList]
  obtain ⟨hsublist, hslash⟩ := sublist_of_mem_splitOn hpart
  exact ⟨hsublist, hsegment, hslash⟩

theorem readable_segmentsOf (s : String) : Readable (segmentsOf s) := fun _ ht =>
  (sublist_of_mem_segmentsOf ht).2

/-- Pairs of dots that lead out of the current place stay in front. -/
theorem head?_normalizeFrom {acc segments : List String} (h : acc.getLast? = some "..") :
    (normalizeFrom false acc segments).head? = some ".." := by
  fun_induction normalizeFrom false acc segments with
  | case1 acc => rw [List.head?_reverse, h]
  | case2 rest ih => cases h
  | case3 rest more ih => exact ih (by simpa using h)
  | case4 rest t more ht ih =>
    cases more with
    | nil => exact absurd (by simpa using h) ht
    | cons u more => exact ih (by simpa using h)
  | case5 acc s rest hs ih =>
    cases acc with
    | nil => cases h
    | cons t more => exact ih (by simpa using h)

/-- A directory stays in front of a path that does not lead out of it. -/
theorem normalizeFrom_below {directory acc segments : List String}
    (h : (normalizeFrom false acc segments).head? ≠ some "..") :
    normalizeFrom false (acc ++ directory.reverse) segments =
      directory ++ normalizeFrom false acc segments := by
  fun_induction normalizeFrom false acc segments with
  | case1 acc => simp [normalizeFrom]
  | case2 rest ih => exact absurd (head?_normalizeFrom rfl) h
  | case3 rest more ih =>
    rw [← ih h, List.cons_append, normalizeFrom, if_pos rfl]
    simp
  | case4 rest t more ht ih =>
    rw [← ih h, List.cons_append, normalizeFrom, if_pos rfl]
    simp [ht]
  | case5 acc s rest hs ih =>
    rw [← ih h, normalizeFrom.eq_def]
    simp [hs]

theorem mem_normalizeFrom {acc segments : List String} {s : String}
    (h : s ∈ normalizeFrom false acc segments) : s ∈ acc ∨ s ∈ segments ∨ s = ".." := by
  fun_induction normalizeFrom false acc segments with
  | case1 acc => exact Or.inl (List.mem_reverse.mp h)
  | case2 rest ih => grind
  | case3 rest more ih => grind
  | case4 rest t more ht ih => grind
  | case5 acc s rest hs ih => grind

end Path

/-! ### Ids -/

namespace FileId.WellFormed

variable {directory id : FileId}

theorem segmentsOf_eq {names : List String} (h : ∀ s ∈ names, isFileName s = true) :
    Path.segmentsOf ("/".intercalate names) = names :=
  Path.segmentsOf_intercalate (Path.readable_of_isFileName h)

theorem segments_ne_nil (h : WellFormed id) : Path.segmentsOf id ≠ [] := by
  obtain ⟨names, hne, hnames, rfl⟩ := h
  rwa [segmentsOf_eq hnames]

theorem isFileName_of_mem (h : WellFormed id) {s : String} (hs : s ∈ Path.segmentsOf id) :
    isFileName s = true := by
  obtain ⟨names, -, hnames, rfl⟩ := h
  rw [segmentsOf_eq hnames] at hs
  exact hnames s hs

theorem intercalate_segmentsOf (h : WellFormed id) :
    "/".intercalate (Path.segmentsOf id) = id := by
  obtain ⟨names, -, hnames, rfl⟩ := h
  rw [segmentsOf_eq hnames]

theorem splitString_eq (h : WellFormed id) :
    Text.splitString '/' id = Path.segmentsOf id := by
  obtain ⟨names, hne, hnames, rfl⟩ := h
  rw [segmentsOf_eq hnames, splitString_intercalate hne]
  exact fun s hs => (isFileName_iff.mp (hnames s hs)).2.2.2

theorem ofString_eq (h : WellFormed id) : Path.ofString id = ⟨.here, Path.segmentsOf id⟩ := by
  have hhead := Path.head?_intercalate_ne_slash (Path.readable_segmentsOf id)
  rw [h.intercalate_segmentsOf] at hhead
  rw [Path.ofString, Path.ofChars_here hhead]

theorem movedTo (hdirectory : WellFormed directory) (h : WellFormed id) :
    WellFormed (id.movedTo directory) := by
  refine ⟨Path.segmentsOf directory ++ Path.segmentsOf id, ?_, fun s hs => ?_, ?_⟩
  · exact fun hnil => h.segments_ne_nil (List.append_eq_nil_iff.mp hnil).2
  · rcases List.mem_append.mp hs with hs | hs
    · exact hdirectory.isFileName_of_mem hs
    · exact h.isFileName_of_mem hs
  · rw [String.intercalate_append_of_ne_nil hdirectory.segments_ne_nil h.segments_ne_nil,
      hdirectory.intercalate_segmentsOf, h.intercalate_segmentsOf]
    rfl

end FileId.WellFormed

/-! ### Where a specifier leads -/

/-- A text with slashes for its backslashes. -/
def withSlashes (s : String) : String :=
  String.ofList (s.toList.map fun c => if c = '\\' then '/' else c)

theorem withSlashes_append (s t : String) :
    withSlashes (s ++ t) = withSlashes s ++ withSlashes t := by
  rw [withSlashes, String.toList_append, List.map_append, String.ofList_append]
  rfl

theorem withSlashes_eq_self {s : String} (h : '\\' ∉ s.toList) : withSlashes s = s := by
  have hmap : s.toList.map (fun c => if c = '\\' then '/' else c) = s.toList :=
    (List.map_congr_left fun c hc => if_neg (ne_of_mem_of_not_mem hc h)).trans (List.map_id _)
  rw [withSlashes, hmap, String.ofList_toList]

theorem eq_dot_of_withSlashes {s : String} (h : withSlashes s = ".") : s = "." := by
  have hchars : s.toList.map (fun c => if c = '\\' then '/' else c) = ['.'] := by
    rw [← String.toList_ofList (l := s.toList.map _), ← withSlashes, h]
    rfl
  obtain ⟨c, hs, hc⟩ := List.map_eq_singleton_iff.mp hchars
  rw [← String.toList_inj, hs]
  split at hc
  · exact absurd hc (by decide)
  · exact congrArg (fun c => [c]) hc

theorem notMem_withSlashes (s : String) : '\\' ∉ (withSlashes s).toList := by
  rw [withSlashes, String.toList_ofList, List.mem_map]
  rintro ⟨c, -, hc⟩
  split at hc
  · exact absurd hc (by decide)
  · next hne => exact hne hc

/-- The segments a specifier names from the top of the project. -/
def stepsTo (spec : String) (importer : FileId) : List String :=
  Path.normalizeFrom false [] ((Path.segmentsOf importer).dropLast ++ Path.segmentsOf spec)

/-- A path leads out of the project when it starts with a pair of dots. -/
def LeadsOut (target : String) : Prop := (Text.splitString '/' target).head? = some ".."

theorem leadsOut_iff {target : String} :
    LeadsOut target ↔ target.startsWith "../" = true ∨ target = ".." := by
  rw [LeadsOut, Text.splitString, splitChar_eq_splitOn]
  constructor
  · intro h
    have hjoin : ['/'].intercalate (target.toList.splitOn '/') = target.toList :=
      List.intercalate_splitOn '/'
    cases hparts : target.toList.splitOn '/' with
    | nil => exact absurd hparts (List.splitOn_ne_nil _ _)
    | cons first rest =>
      rw [hparts] at h hjoin
      obtain rfl : first = ['.', '.'] := by
        have hfirst : String.ofList first = ".." := by simpa using h
        rw [← String.toList_ofList (l := first), hfirst]
        rfl
      cases rest with
      | nil => exact Or.inr (String.toList_inj.mp hjoin.symm)
      | cons next more =>
        rw [List.intercalate_cons_cons, List.append_assoc] at hjoin
        exact Or.inl (String.startsWith_string_iff.mpr ⟨_, hjoin⟩)
  · rintro (h | rfl)
    · obtain ⟨rest, hrest⟩ := String.startsWith_string_iff.mp h
      have hsplit : target.toList = ['.', '.'] ++ '/' :: rest := hrest.symm
      rw [hsplit, List.splitOn_append_cons_self]
      rfl
    · rfl

variable {directory spec target : String} {importer id : FileId} {files : List FileId}

theorem importTarget?_eq_some_iff (himporter : importer.WellFormed) :
    importTarget? spec importer = some target ↔
      spec.startsWith "." = true ∧ ¬LeadsOut target ∧
        withSlashes (Path.text ⟨.here, stepsTo spec importer⟩) = target := by
  rw [importTarget?]
  by_cases hdot : spec.startsWith "." = true
  · have hspec : Path.ofString spec = ⟨.here, Path.segmentsOf spec⟩ := by
      obtain ⟨rest, hrest⟩ := String.startsWith_string_iff.mp hdot
      have hhead : spec.toList.head? = some '.' := hrest ▸ rfl
      rw [Path.ofString, Path.ofChars_here (by rw [hhead]; decide)]
    have hnamed : ((Path.ofString importer).parent.join (Path.ofString spec)).normalize =
        ⟨.here, stepsTo spec importer⟩ := by
      rw [himporter.ofString_eq, hspec]
      rfl
    have hout (t : String) : (t.startsWith "../" || t = "..") = true ↔ LeadsOut t := by
      rw [leadsOut_iff, Bool.or_eq_true, decide_eq_true_eq]
    rw [if_pos hdot, hnamed]
    dsimp only
    rw [← withSlashes]
    by_cases h : LeadsOut (withSlashes (Path.text ⟨.here, stepsTo spec importer⟩))
    · rw [if_pos ((hout _).mpr h)]
      refine iff_of_false (by simp) ?_
      rintro ⟨-, hin, rfl⟩
      exact hin h
    · rw [if_neg (mt (hout _).mp h), Option.some.injEq]
      exact ⟨fun heq => ⟨hdot, heq ▸ h, heq⟩, fun heq => heq.2.2⟩
  · rw [if_neg hdot]
    simp [hdot]

/-- The text of a path from the top leads out of the project when its first segment does. -/
theorem leadsOut_of_head? {steps : List String} (h : steps.head? = some "..") :
    LeadsOut (withSlashes (Path.text ⟨.here, steps⟩)) := by
  cases steps with
  | nil => cases h
  | cons s rest =>
    obtain rfl : s = ".." := by simpa using h
    cases rest with
    | nil => rfl
    | cons t more =>
      have htext : Path.text ⟨.here, ".." :: t :: more⟩ =
          "../" ++ "/".intercalate (t :: more) := by
        show "" ++ "/".intercalate (".." :: t :: more) = _
        rw [String.intercalate_cons_cons]
        rfl
      rw [htext, withSlashes_append, leadsOut_iff]
      exact Or.inl (String.startsWith_string_iff.mpr (by simp [withSlashes]))

/-! ### Where it leads after a move -/

theorem text_here {steps : List String} (h : steps ≠ []) :
    Path.text ⟨.here, steps⟩ = "/".intercalate steps := by
  cases steps with
  | nil => exact absurd rfl h
  | cons s rest => exact String.empty_append

/-- The steps to what a specifier names start with the directory the project was moved into. -/
theorem stepsTo_movedTo (hdirectory : FileId.WellFormed directory) (himporter : importer.WellFormed)
    (hin : (stepsTo spec importer).head? ≠ some "..") :
    stepsTo spec (importer.movedTo directory) =
      Path.segmentsOf directory ++ stepsTo spec importer := by
  have hdots : ∀ s ∈ Path.segmentsOf directory, s ≠ ".." := fun s hs =>
    (isFileName_iff.mp (hdirectory.isFileName_of_mem hs)).2.2.1
  rw [stepsTo, Path.segmentsOf_movedTo,
    List.dropLast_append_of_ne_nil himporter.segments_ne_nil, List.append_assoc,
    Path.normalizeFrom_append hdots, List.append_nil]
  exact @Path.normalizeFrom_below (Path.segmentsOf directory) [] _ hin

/-- Only the top of the project has the text of the current place. -/
theorem withSlashes_text_eq_dot_iff {steps : List String} (h : Path.Readable steps) :
    withSlashes (Path.text ⟨.here, steps⟩) = "." ↔ steps = [] := by
  refine ⟨fun heq => ?_, fun hnil => hnil ▸ rfl⟩
  have hread := Path.ofString_text_of_readable ⟨.here, steps⟩ h
  rw [eq_dot_of_withSlashes heq] at hread
  exact congrArg Path.segments hread.symm

theorem readable_stepsTo : Path.Readable (stepsTo spec importer) := by
  intro s hs
  rcases Path.mem_normalizeFrom hs with hs | hs | rfl
  · cases hs
  · rcases List.mem_append.mp hs with hs | hs
    · exact Path.readable_segmentsOf _ s ((List.dropLast_sublist _).mem hs)
    · exact Path.readable_segmentsOf _ s hs
  · decide

/-- Nothing below a directory leads out of the project. -/
theorem not_leadsOut_movedTo (hdirectory : FileId.WellFormed directory) (target : String) :
    ¬LeadsOut directory ∧ ¬LeadsOut (FileId.movedTo directory target) := by
  have hhead : (Path.segmentsOf directory).head? ≠ some ".." := fun h =>
    (isFileName_iff.mp (hdirectory.isFileName_of_mem (List.mem_of_mem_head? h))).2.2.1 rfl
  constructor
  · rwa [LeadsOut, hdirectory.splitString_eq]
  · rw [LeadsOut, Text.splitString, FileId.toList_movedTo, splitChar_eq_splitOn,
      List.splitOn_append_cons_self, List.map_append, ← splitChar_eq_splitOn, ← Text.splitString,
      hdirectory.splitString_eq, List.head?_append]
    cases hsegments : Path.segmentsOf directory with
    | nil => exact absurd hsegments hdirectory.segments_ne_nil
    | cons s rest =>
      rw [hsegments] at hhead
      exact hhead

/-- **Where a specifier leads in a moved project**: below the new directory, or to the directory
itself. -/
theorem importTarget?_movedTo (hdirectory : FileId.WellFormed directory)
    (himporter : importer.WellFormed) (hslash : '\\' ∉ directory.toList)
    (h : importTarget? spec importer = some target) :
    importTarget? spec (importer.movedTo directory) =
      some (if target = "." then directory else FileId.movedTo directory target) := by
  obtain ⟨hdot, hin, htext⟩ := (importTarget?_eq_some_iff himporter).mp h
  have hhead : (stepsTo spec importer).head? ≠ some ".." := fun hout =>
    hin (htext ▸ leadsOut_of_head? hout)
  rw [importTarget?_eq_some_iff (hdirectory.movedTo himporter),
    stepsTo_movedTo hdirectory himporter hhead]
  have hout := not_leadsOut_movedTo hdirectory target
  have hne := hdirectory.segments_ne_nil
  by_cases hsteps : stepsTo spec importer = []
  · have htarget : target = "." := htext ▸ (withSlashes_text_eq_dot_iff readable_stepsTo).mpr hsteps
    rw [if_pos htarget, hsteps, List.append_nil, text_here hne, hdirectory.intercalate_segmentsOf,
      withSlashes_eq_self hslash]
    exact ⟨hdot, hout.1, rfl⟩
  · have htarget : target ≠ "." := fun htarget =>
      hsteps ((withSlashes_text_eq_dot_iff readable_stepsTo).mp (htext.trans htarget))
    rw [text_here hsteps] at htext
    rw [if_neg htarget, text_here (List.append_ne_nil_of_left_ne_nil hne _),
      String.intercalate_append_of_ne_nil hne hsteps, hdirectory.intercalate_segmentsOf,
      withSlashes_append, withSlashes_append, withSlashes_eq_self hslash, htext]
    exact ⟨hdot, hout.2, rfl⟩

/-! ### What is tried there -/

/-- The ids a path with a suffix may stand for as it is written. -/
def namedFiles (suffix target : String) : List FileId :=
  if suffix = "" then []
  else
    target :: ((compiledSuffixes.lookup suffix).getD []).map fun other =>
      dropEnd target suffix.length ++ other

/-- The ids of index files, as seen from the directory they are in. -/
def indexFiles : List FileId := graphExtensions.map ("index" ++ ·)

theorem targetCandidates_eq (target : String) :
    targetCandidates target = namedFiles (Path.ofString target).suffix target ++
      graphExtensions.map (target ++ ·) ++ indexFiles.map (FileId.movedTo target) := by
  have hindex : indexFiles.map (FileId.movedTo target) =
      graphExtensions.map fun ext => target ++ "/index" ++ ext := by
    rw [indexFiles, List.map_map]
    refine List.map_congr_left fun ext _ => ?_
    rw [Function.comp_apply, FileId.movedTo, show "/index" = "/" ++ "index" from rfl]
    simp only [String.append_assoc]
  rw [hindex]
  rfl

theorem mem_graphExtensions_of_lookup {suffix other : String}
    (h : other ∈ (compiledSuffixes.lookup suffix).getD []) : other ∈ graphExtensions := by
  have hall : ∀ entry ∈ compiledSuffixes, ∀ other ∈ entry.2, other ∈ graphExtensions := by decide
  cases hlookup : compiledSuffixes.lookup suffix with
  | none =>
    rw [hlookup] at h
    cases h
  | some others =>
    rw [hlookup] at h
    obtain ⟨before, after, hentries, -⟩ := List.lookup_eq_some_iff.mp hlookup
    exact hall (suffix, others) (by rw [hentries]; simp) other h

/-- The ids that are tried, but for index files: a part of the path and a suffix of script files. -/
theorem exists_of_mem_candidates {suffix : String}
    (h : id ∈ namedFiles suffix target ++ graphExtensions.map (target ++ ·)) :
    ∃ n ext, id.toList = target.toList.take n ++ ext ∧ '/' ∉ ext ∧ '\\' ∉ ext := by
  have hext : ∀ ext ∈ graphExtensions, '/' ∉ ext.toList ∧ '\\' ∉ ext.toList := by decide
  rcases List.mem_append.mp h with h | h
  · rw [namedFiles] at h
    split at h
    · cases h
    · rcases List.mem_cons.mp h with rfl | h
      · exact ⟨id.toList.length, [], by simp⟩
      · obtain ⟨other, hother, rfl⟩ := List.mem_map.mp h
        refine ⟨target.length - suffix.length, other.toList, ?_,
          hext other (mem_graphExtensions_of_lookup hother)⟩
        rw [String.toList_append, dropEnd, String.toList_ofList]
  · obtain ⟨ext, hmem, rfl⟩ := List.mem_map.mp h
    exact ⟨target.toList.length, ext.toList, by simp, hext ext hmem⟩

/-- No id that is tried holds a backslash, unless the path does. -/
theorem notMem_of_mem_targetCandidates (htarget : '\\' ∉ target.toList)
    (h : id ∈ targetCandidates target) : '\\' ∉ id.toList := by
  rw [targetCandidates_eq, List.mem_append] at h
  rcases h with h | h
  · obtain ⟨n, ext, hid, -, hext⟩ := exists_of_mem_candidates h
    rw [hid, List.mem_append]
    rintro (hmem | hmem)
    · exact htarget (List.mem_of_mem_take hmem)
    · exact hext hmem
  · have hindex : ∀ index ∈ indexFiles, '\\' ∉ index.toList := by decide
    obtain ⟨index, hmem, rfl⟩ := List.mem_map.mp h
    rw [FileId.toList_movedTo]
    simp [htarget, hindex index hmem]

/-- Only an index file is tried below a directory. -/
theorem ne_movedTo_of_mem_candidates {suffix : String}
    (h : id ∈ namedFiles suffix directory ++ graphExtensions.map (directory ++ ·))
    (file : FileId) : id ≠ file.movedTo directory := by
  rintro rfl
  obtain ⟨n, ext, hid, hext, -⟩ := exists_of_mem_candidates h
  rw [FileId.toList_movedTo] at hid
  have hrest := congrArg (List.drop (directory.toList.take n).length) hid
  rw [List.drop_left] at hrest
  refine hext (hrest ▸ ?_)
  have hle : (directory.toList.take n).length ≤ directory.toList.length :=
    (List.take_sublist n directory.toList).length_le
  rw [List.drop_append_of_le_length hle]
  exact List.mem_append_right _ (List.mem_cons_self ..)

theorem dropEnd_movedTo {n : Nat} (h : n ≤ target.length) :
    dropEnd (FileId.movedTo directory target) n = FileId.movedTo directory (dropEnd target n) := by
  rw [← String.toList_inj, FileId.toList_movedTo, dropEnd, dropEnd, String.toList_ofList,
    String.toList_ofList, FileId.toList_movedTo, ← String.length_toList, FileId.toList_movedTo]
  rw [← String.length_toList] at h ⊢
  simp only [List.length_append, List.length_cons]
  have hlength : directory.toList.length + (target.toList.length + 1) - n =
      directory.toList.length + (target.toList.length - n + 1) := by omega
  rw [hlength, List.take_length_add_append, List.take_succ_cons]

/-- The suffix of a path is no longer than its text. -/
theorem length_suffix_le (target : String) :
    (Path.ofString target).suffix.length ≤ target.length := by
  obtain ⟨front, hfront⟩ := Path.exists_eq_append_suffixOf (Path.ofString target).name
  have hname : (Path.ofString target).name.toList.length ≤ target.toList.length := by
    rw [Path.name]
    cases hlast : (Path.ofString target).segments.getLast? with
    | none => exact Nat.zero_le _
    | some name =>
      exact (Path.sublist_of_mem_segmentsOf (List.mem_of_getLast? hlast)).1.length_le
  rw [hfront, List.length_append, String.length_toList, String.length_toList] at hname
  exact Nat.le_of_add_left_le hname

/-- **What is tried in a moved project** is what was tried before, moved along. -/
theorem targetCandidates_movedTo (directory : String)
    (htarget : (Path.ofString target).segments ≠ []) :
    targetCandidates (FileId.movedTo directory target) =
      (targetCandidates target).map (FileId.movedTo directory) := by
  have hsegments : Path.segmentsOf target ≠ [] := htarget
  have hlast : (Path.segmentsOf (FileId.movedTo directory target)).getLast? =
      (Path.segmentsOf target).getLast? := by
    rw [Path.segmentsOf_movedTo, List.getLast?_append, List.getLast?_eq_some_getLast hsegments]
    rfl
  have hsuffix : (Path.ofString (FileId.movedTo directory target)).suffix =
      (Path.ofString target).suffix := by
    rw [Path.suffix, Path.suffix, Path.name, Path.name, Path.ofString, hlast]
    rfl
  have hnamed : namedFiles (Path.ofString target).suffix (FileId.movedTo directory target) =
      (namedFiles (Path.ofString target).suffix target).map (FileId.movedTo directory) := by
    rw [namedFiles, namedFiles]
    split
    · rfl
    · rw [List.map_cons, List.map_map]
      refine congrArg _ (List.map_congr_left fun other _ => ?_)
      rw [dropEnd_movedTo (length_suffix_le target), FileId.movedTo, String.append_assoc]
      rfl
  have happend (other : String) : FileId.movedTo directory target ++ other =
      FileId.movedTo directory (target ++ other) := String.append_assoc ..
  have hbeside : graphExtensions.map (FileId.movedTo directory target ++ ·) =
      (graphExtensions.map (target ++ ·)).map (FileId.movedTo directory) := by
    rw [List.map_map]
    exact List.map_congr_left fun ext _ => happend ext
  have hindex : indexFiles.map (FileId.movedTo (FileId.movedTo directory target)) =
      (indexFiles.map (FileId.movedTo target)).map (FileId.movedTo directory) := by
    rw [List.map_map]
    refine List.map_congr_left fun index _ => ?_
    rw [FileId.movedTo, happend, FileId.movedTo, String.append_assoc]
    rfl
  rw [targetCandidates_eq, targetCandidates_eq, List.map_append, List.map_append, hsuffix, hnamed,
    hbeside, hindex]

/-! ### What a specifier names after a move -/

theorem find?_movedTo (directory : String) (candidates files : List FileId) :
    (candidates.map (FileId.movedTo directory)).find?
        (files.map (FileId.movedTo directory)).contains =
      (candidates.find? files.contains).map (FileId.movedTo directory) := by
  have hcontains : (files.map (FileId.movedTo directory)).contains ∘ FileId.movedTo directory =
      files.contains := by
    funext id
    rw [Bool.eq_iff_iff]
    simp [List.mem_map, (FileId.movedTo_injective directory).eq_iff]
  rw [List.find?_map, hcontains]

/-- In a directory an index file is looked for, as everywhere. -/
theorem find?_targetCandidates_directory (directory : String) (files : List FileId) :
    (targetCandidates directory).find? (files.map (FileId.movedTo directory)).contains =
      (indexFiles.find? files.contains).map (FileId.movedTo directory) := by
  have hbeside : (namedFiles (Path.ofString directory).suffix directory ++
      graphExtensions.map (directory ++ ·)).find?
        (files.map (FileId.movedTo directory)).contains = none := by
    refine List.find?_eq_none.mpr fun id hid hfile => ?_
    obtain ⟨file, -, rfl⟩ := List.mem_map.mp (List.contains_iff_mem.mp hfile)
    exact ne_movedTo_of_mem_candidates hid file rfl
  rw [targetCandidates_eq, List.find?_append, hbeside, find?_movedTo]
  rfl

/-- At the top of a project no index file is looked for. -/
theorem find?_targetCandidates_top (hfiles : ∀ id ∈ files, id.WellFormed) :
    (targetCandidates ".").find? files.contains =
      (graphExtensions.map ("." ++ ·)).find? files.contains := by
  have hindex : (indexFiles.map (FileId.movedTo ".")).find? files.contains = none := by
    refine List.find?_eq_none.mpr fun id hid hfile => ?_
    have hsplit : ∀ id ∈ indexFiles.map (FileId.movedTo "."),
        Text.splitString '/' id ≠ Path.segmentsOf id := by decide
    exact hsplit id hid (hfiles id (List.contains_iff_mem.mp hfile)).splitString_eq
  rw [targetCandidates_eq, List.find?_append, hindex, Option.or_none]
  rfl

theorem notMem_intercalate {c : Char} (hc : c ≠ '/') {segments : List String}
    (h : ∀ s ∈ segments, c ∉ s.toList) : c ∉ ("/".intercalate segments).toList := by
  induction segments with
  | nil => exact List.not_mem_nil
  | cons s rest ih =>
    obtain ⟨hs, hrest⟩ := List.forall_mem_cons.mp h
    cases rest with
    | nil => simpa using hs
    | cons t more =>
      rw [String.intercalate_cons_cons]
      simp only [String.toList_append, List.mem_append, not_or]
      exact ⟨⟨hs, by simpa using hc⟩, ih hrest⟩

/-- A path without backslashes says where to go, unless it is the top of the project. -/
theorem eq_dot_or_segments_ne_nil (himporter : importer.WellFormed)
    (hspec : '\\' ∉ spec.toList) (hslash : '\\' ∉ importer.toList)
    (h : importTarget? spec importer = some target) :
    target = "." ∨ (Path.ofString target).segments ≠ [] := by
  obtain ⟨-, -, htext⟩ := (importTarget?_eq_some_iff himporter).mp h
  by_cases hsteps : stepsTo spec importer = []
  · exact Or.inl (htext ▸ (withSlashes_text_eq_dot_iff readable_stepsTo).mpr hsteps)
  · have hnone : ∀ s ∈ stepsTo spec importer, '\\' ∉ s.toList := by
      intro s hs
      rcases Path.mem_normalizeFrom hs with hs | hs | rfl
      · cases hs
      · rcases List.mem_append.mp hs with hs | hs
        · exact mt (Path.sublist_of_mem_segmentsOf ((List.dropLast_sublist _).mem hs)).1.mem hslash
        · exact mt (Path.sublist_of_mem_segmentsOf hs).1.mem hspec
      · decide
    rw [text_here hsteps, withSlashes_eq_self (notMem_intercalate (by decide) hnone),
      ← text_here hsteps] at htext
    have hread := Path.ofString_text_of_readable ⟨.here, stepsTo spec importer⟩ readable_stepsTo
    rw [htext] at hread
    exact Or.inr (hread ▸ hsteps)

/-- **What a specifier names in a moved project.** It names the file it named before, moved along,
when it leads to something below the top. When it leads to the top itself, it names the index file
of the project only after the move; and in a directory with a backslash it names nothing. -/
theorem resolveSpecifier?_movedTo (hdirectory : FileId.WellFormed directory)
    (himporter : importer.WellFormed) (hfiles : ∀ id ∈ files, id.WellFormed)
    (h : importTarget? spec importer = some target) :
    ('\\' ∉ directory.toList → (Path.ofString target).segments ≠ [] →
      resolveSpecifier? spec (importer.movedTo directory) (files.map (FileId.movedTo directory)) =
        (resolveSpecifier? spec importer files).map (FileId.movedTo directory)) ∧
    ('\\' ∉ directory.toList → target = "." →
      resolveSpecifier? spec (importer.movedTo directory) (files.map (FileId.movedTo directory)) =
          (indexFiles.find? files.contains).map (FileId.movedTo directory) ∧
        resolveSpecifier? spec importer files =
          (graphExtensions.map ("." ++ ·)).find? files.contains) ∧
    ('\\' ∈ directory.toList →
      resolveSpecifier? spec (importer.movedTo directory) (files.map (FileId.movedTo directory)) =
        none) ∧
    ('\\' ∉ spec.toList → '\\' ∉ importer.toList →
      target = "." ∨ (Path.ofString target).segments ≠ []) := by
  refine ⟨fun hslash hsegments => ?_, fun hslash htop => ⟨?_, ?_⟩, fun hslash => ?_,
    fun hspec hslash => eq_dot_or_segments_ne_nil himporter hspec hslash h⟩
  · have htop : target ≠ "." := by
      rintro rfl
      exact hsegments rfl
    rw [resolveSpecifier?, resolveSpecifier?, importTarget?_movedTo hdirectory himporter hslash h,
      h, if_neg htop, Option.bind_some, Option.bind_some, targetCandidates_movedTo _ hsegments,
      find?_movedTo]
  · rw [resolveSpecifier?, importTarget?_movedTo hdirectory himporter hslash h, if_pos htop,
      Option.bind_some, find?_targetCandidates_directory]
  · rw [resolveSpecifier?, h, htop, Option.bind_some, find?_targetCandidates_top hfiles]
  · refine Option.bind_eq_none_iff.mpr fun moved hmoved => ?_
    obtain ⟨-, -, rfl⟩ := (importTarget?_eq_some_iff (hdirectory.movedTo himporter)).mp hmoved
    refine List.find?_eq_none.mpr fun id hid hfile => ?_
    obtain ⟨file, -, rfl⟩ := List.mem_map.mp (List.contains_iff_mem.mp hfile)
    refine notMem_of_mem_targetCandidates (notMem_withSlashes _) hid ?_
    rw [FileId.toList_movedTo]
    exact List.mem_append_left _ hslash

/-- An import of the top of a project finds the index file there only after a move. -/
theorem index_of_top_unnoticed :
    importTarget? "." "a.ts" = some "." ∧
    resolveSpecifier? "." "a.ts" ["a.ts", "index.ts"] = none ∧
    resolveSpecifier? "." "lib/a.ts" ["lib/a.ts", "lib/index.ts"] = some "lib/index.ts" := by
  have hids : ∀ id ∈ ["lib", "a.ts", "index.ts"], FileId.WellFormed id := by
    intro id hid
    have hname : ∀ id ∈ ["lib", "a.ts", "index.ts"], isFileName id = true := by decide
    exact ⟨[id], by simp, by simpa using hname id hid, by simp⟩
  have htarget : importTarget? "." "a.ts" = some "." := by decide +kernel
  have hfiles : ∀ id ∈ ["a.ts", "index.ts"], FileId.WellFormed id := fun id hid =>
    hids id (List.mem_cons_of_mem _ hid)
  obtain ⟨-, htop, -⟩ :=
    resolveSpecifier?_movedTo (hids "lib" (by simp)) (hids "a.ts" (by simp)) hfiles htarget
  obtain ⟨hmoved, hroot⟩ := htop (by decide) rfl
  exact ⟨htarget, hroot.trans (by decide +kernel), hmoved.trans (by decide +kernel)⟩

end Preflight
