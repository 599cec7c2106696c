import Preflight.Proofs.FileTree.Gains
import Preflight.Proofs.Log.Results

/-!
# Looking for tests in a project that gains a file

The tests of a source file are looked for at a list of paths, and the first one that leads to a file
is taken; a name that is too long stops the search. All of these paths start beside the source file
or at the top of the project, and their names are names on the way to the source file, names of
directories for tests, and names no longer than the one that is looked for first. So in a project
that gains a file nothing new stops the search, and it finds a test where it found one.

## Main definitions

* `Path.ReachedFrom`: a path below a directory, by names that are not too long after the first.

## Main results

* `reachedFrom_of_mem_testCandidates`: where tests are looked for.
* `Workspace.Gains.firstFile?_grow`: the first file of some paths.
* `Workspace.Gains.discoverTests_grow`: a file with tests keeps having tests.
-/

namespace Preflight

/-! ### Names -/

theorem not_isDirection_of_size {s : String} (h : 2 < s.utf8ByteSize) : ¬isDirection s := by
  rintro (rfl | rfl | rfl)
  · exact absurd h (by decide)
  · exact absurd h (by decide)
  · exact absurd h (by decide)

theorem isPlain_of_size {s : String} (h : 2 < s.utf8ByteSize)
    (hlimit : s.utf8ByteSize ≤ nameLimit) : IsPlain s :=
  ⟨not_isDirection_of_size h, hlimit⟩

namespace Path

variable {p directory : Path} {name : String}

/-- A name is its stem and its suffix. -/
theorem stem_append_suffix (p : Path) : p.stem ++ p.suffix = p.name := by
  obtain ⟨front, hfront⟩ := exists_eq_append_suffixOf p.name
  have hstem : p.name.toList.take (p.name.length - p.suffix.length) = front := by
    rw [suffix, ← String.length_toList, ← String.length_toList, hfront, List.length_append,
      Nat.add_sub_cancel, List.take_left]
  rw [← String.toList_inj, String.toList_append, stem, hstem, String.toList_ofList, hfront, suffix]

theorem child_of_ne (h : name ≠ "") (p : Path) :
    p.child name = { p with segments := p.segments ++ [name] } := if_neg h

theorem name_child (h : name ≠ "") (p : Path) : (p.child name).name = name := by
  rw [child_of_ne h, Path.name, List.getLast?_concat, Option.getD_some]

@[simp] theorem join_nil (p : Path) : p.join ⟨.here, []⟩ = p := by
  rw [join, if_neg (show ¬isAbsolute ⟨.here, []⟩ = true from Bool.false_ne_true), List.append_nil]

/-- A path below a directory, by names that are looked up and, after the first one, are not too
long. -/
def ReachedFrom (p directory : Path) : Prop :=
  ∃ steps, p = { directory with segments := directory.segments ++ steps } ∧
    (∀ s ∈ steps, ¬isDirection s) ∧ ∀ s ∈ steps.tail, IsPlain s

theorem ReachedFrom.refl (directory : Path) : directory.ReachedFrom directory :=
  ⟨[], by rw [List.append_nil], by simp, by simp⟩

theorem ReachedFrom.join (h : p.ReachedFrom directory) {segments : List String}
    (hsegments : ∀ s ∈ segments, IsPlain s) : (p.join ⟨.here, segments⟩).ReachedFrom directory := by
  obtain ⟨steps, rfl, hdirections, hplain⟩ := h
  refine ⟨steps ++ segments, ?_, fun s hs => ?_, fun s hs => ?_⟩
  · rw [Path.join, if_neg (show ¬Path.isAbsolute ⟨.here, segments⟩ = true from Bool.false_ne_true),
      ← List.append_assoc]
  · rcases List.mem_append.mp hs with hs | hs
    · exact hdirections s hs
    · exact (hsegments s hs).1
  · cases steps with
    | nil => exact hsegments s (List.mem_of_mem_tail hs)
    | cons t more =>
      rcases List.mem_append.mp hs with hs | hs
      · exact hplain s hs
      · exact hsegments s hs

theorem ReachedFrom.child (h : p.ReachedFrom directory) (hname : IsPlain name) :
    (p.child name).ReachedFrom directory := by
  rw [child_of_ne fun hempty => hname.1 (Or.inl hempty)]
  have hnames : ∀ s ∈ [name], IsPlain s := by simpa using hname
  exact h.join hnames

theorem ReachedFrom.isAbsolute (h : p.ReachedFrom directory)
    (hdirectory : directory.isAbsolute = true) : p.isAbsolute = true := by
  obtain ⟨steps, rfl, -⟩ := h
  exact hdirectory

/-- The first name may be too long. -/
theorem reachedFrom_child (hname : ¬isDirection name) (directory : Path) :
    (directory.child name).ReachedFrom directory :=
  ⟨[name], child_of_ne (fun hempty => hname (Or.inl hempty)) directory, by simpa using hname,
    by simp⟩

end Path

/-! ### Where tests are looked for -/

section candidates

variable {source root p : Path}

/-- The name that is looked for first. -/
def firstTestName (source : Path) : String := source.stem ++ ".test" ++ source.suffix

/-- A name with a mark in it, of which there are two, is as much longer for the one as for the
other. -/
theorem utf8ByteSize_marked {mark : String} (hmark : mark = ".test" ∨ mark = ".spec")
    (base ext : String) :
    (base ++ mark ++ ext).utf8ByteSize = base.utf8ByteSize + 5 + ext.utf8ByteSize := by
  rw [String.utf8ByteSize_append, String.utf8ByteSize_append]
  rcases hmark with rfl | rfl
  · rfl
  · rfl

theorem not_isDirection_marked {mark : String} (hmark : mark = ".test" ∨ mark = ".spec")
    (base ext : String) : ¬isDirection (base ++ mark ++ ext) := by
  refine not_isDirection_of_size ?_
  rw [utf8ByteSize_marked hmark]
  omega

theorem isPlain_testSibling : IsPlain testSibling := isPlain_of_size (by decide) (by decide)

theorem isPlain_testDirectories {top : String} (h : top ∈ testDirectories) : IsPlain top := by
  rcases List.mem_pair.mp h with rfl | rfl
  · exact isPlain_of_size (by decide) (by decide)
  · exact isPlain_of_size (by decide) (by decide)

/-- The name of a path is one of its segments. -/
theorem Path.name_mem (h : source.segments ≠ []) : source.name ∈ source.segments := by
  rw [Path.name, List.getLast?_eq_getLast_of_ne_nil h]
  exact List.getLast_mem h

/-- What is looked for beside a file: its name with a mark, and its suffix or another one at the
end; or, in the directory for tests, its name as it is or with a mark. -/
theorem exists_of_mem_candidatesBeside (hp : p ∈ candidatesBeside source) :
    (∃ mark ext, (mark = ".test" ∨ mark = ".spec") ∧
      (ext = source.suffix ∨ ext = ".ts" ∨ ext = ".js") ∧
      p = source.parent.child (source.stem ++ mark ++ ext)) ∨
    ∃ name, (name = source.name ∨ ∃ mark, (mark = ".test" ∨ mark = ".spec") ∧
        name = source.stem ++ mark ++ source.suffix) ∧
      p = (source.parent.child testSibling).child name := by
  simp only [candidatesBeside, List.mem_append, List.mem_flatMap, List.mem_cons, List.not_mem_nil,
    or_false] at hp
  rcases hp with hp | ⟨ext, hext, hp⟩
  · rcases hp with hp | hp | hp | hp | hp
    · exact Or.inl ⟨".test", _, Or.inl rfl, Or.inl rfl, hp⟩
    · exact Or.inl ⟨".spec", _, Or.inr rfl, Or.inl rfl, hp⟩
    · exact Or.inr ⟨_, Or.inl (Path.stem_append_suffix source), hp⟩
    · exact Or.inr ⟨_, Or.inr ⟨".test", Or.inl rfl, rfl⟩, hp⟩
    · exact Or.inr ⟨_, Or.inr ⟨".spec", Or.inr rfl, rfl⟩, hp⟩
  · have hother : ext = ".ts" ∨ ext = ".js" := List.mem_pair.mp (List.mem_filter.mp hext).1
    rcases hp with hp | hp
    · exact Or.inl ⟨".test", ext, Or.inl rfl, Or.inr hother, hp⟩
    · exact Or.inl ⟨".spec", ext, Or.inr rfl, Or.inr hother, hp⟩

/-- What is looked for in a test directory: one name, there or below, by names on the way to the
file. -/
theorem exists_of_mem_candidatesBelow {testRoot : Path} {directory : Option Path} {name : String}
    (hp : p ∈ candidatesBelow testRoot directory name) :
    ∃ below : List String, p = (testRoot.join ⟨.here, below⟩).child name ∧
      ∀ s ∈ below, ∃ d ∈ directory, s ∈ d.segments := by
  rw [candidatesBelow, List.mem_cons] at hp
  rcases hp with rfl | hp
  · exact ⟨[], by rw [Path.join_nil], by simp⟩
  · split at hp
    · cases hp
    · cases hp
    · next top below hsegments =>
      obtain ⟨d, hd, hd'⟩ := Option.map_eq_some_iff.mp hsegments
      have hall : ∀ s ∈ top :: below, ∃ d ∈ directory, s ∈ d.segments := fun s hs =>
        ⟨d, hd, hd' ▸ hs⟩
      rcases List.mem_cons.mp hp with rfl | hp
      · exact ⟨top :: below, rfl, hall⟩
      · split at hp
        · obtain rfl := List.mem_singleton.mp hp
          exact ⟨below, rfl, fun s hs => hall s (List.mem_cons_of_mem _ hs)⟩
        · cases hp

theorem candidatesBeside_reached (hsource : ∀ s ∈ source.segments, IsPlain s)
    (hname : source.segments ≠ []) (hfirst : IsPlain (firstTestName source))
    (hp : p ∈ candidatesBeside source) : p.ReachedFrom source.parent := by
  have hmarked : ∀ mark, mark = ".test" ∨ mark = ".spec" →
      IsPlain (source.stem ++ mark ++ source.suffix) := by
    intro mark hmark
    have hsize := hfirst.2
    rw [firstTestName, utf8ByteSize_marked (Or.inl rfl)] at hsize
    refine ⟨not_isDirection_marked hmark _ _, ?_⟩
    rwa [utf8ByteSize_marked hmark]
  rcases exists_of_mem_candidatesBeside hp with ⟨mark, ext, hmark, -, hp⟩ | ⟨name, hform, hp⟩
  · -- a name with another suffix may be longer, but it is looked up beside the source file
    exact hp ▸ Path.reachedFrom_child (not_isDirection_marked hmark _ _) _
  · have hsibling := (Path.ReachedFrom.refl source.parent).child isPlain_testSibling
    have hplain : IsPlain name := by
      rcases hform with hsame | ⟨mark, hmark, hmarkedName⟩
      · exact hsame ▸ hsource _ (Path.name_mem hname)
      · exact hmarkedName ▸ hmarked mark hmark
    exact hp ▸ hsibling.child hplain

theorem candidatesBelow_reached {testRoot : Path} {directory : Option Path} {name : String}
    (hroot : testRoot.ReachedFrom root) (hname : IsPlain name)
    (hdirectory : ∀ d ∈ directory, ∀ s ∈ d.segments, IsPlain s)
    (hp : p ∈ candidatesBelow testRoot directory name) : p.ReachedFrom root := by
  obtain ⟨below, rfl, hbelow⟩ := exists_of_mem_candidatesBelow hp
  refine (hroot.join fun s hs => ?_).child hname
  obtain ⟨d, hd, hs⟩ := hbelow s hs
  exact hdirectory d hd s hs

/-- **Where tests are looked for**: below the directory of the source file, or below the top of the
project. -/
theorem reachedFrom_of_mem_testCandidates (hsource : ∀ s ∈ source.segments, IsPlain s)
    (hname : source.segments ≠ []) (hfirst : IsPlain (firstTestName source))
    (hp : p ∈ testCandidates source root) : p.ReachedFrom source.parent ∨ p.ReachedFrom root := by
  rw [testCandidates, mem_distinct, List.mem_filter, List.mem_append] at hp
  obtain ⟨hp | hp, -⟩ := hp
  · exact Or.inl (candidatesBeside_reached hsource hname hfirst hp)
  · obtain ⟨top, htop, hp⟩ := List.mem_flatMap.mp hp
    have hroot := (Path.ReachedFrom.refl root).child (isPlain_testDirectories htop)
    refine Or.inr (candidatesBelow_reached hroot hfirst (fun d hd s hs => ?_) hp)
    -- the directory is on the way to the source file
    obtain ⟨-, -, hsegments⟩ := Path.eq_join_of_relativeTo?_eq_some hd
    refine hsource s ((List.dropLast_sublist source.segments).mem ?_)
    rw [show source.segments.dropLast = root.segments ++ d.segments from hsegments]
    exact List.mem_append_right _ hs

/-- The path that is looked at first. -/
theorem testCandidates_eq_cons (source root : Path) :
    ∃ others, testCandidates source root =
      source.parent.child (firstTestName source) :: others := by
  have hempty : firstTestName source ≠ "" := fun heq =>
    not_isDirection_marked (Or.inl rfl) source.stem source.suffix (Or.inl heq)
  have hne : source.parent.child (firstTestName source) ≠ source := by
    intro heq
    have hname : firstTestName source = source.name := by
      rw [← Path.name_child hempty source.parent, heq]
    have hsize := congrArg String.utf8ByteSize hname
    rw [firstTestName, utf8ByteSize_marked (Or.inl rfl), ← Path.stem_append_suffix,
      String.utf8ByteSize_append] at hsize
    omega
  have hcandidates : ∃ others, candidatesBeside source =
      source.parent.child (firstTestName source) :: others := ⟨_, rfl⟩
  obtain ⟨others, hothers⟩ := hcandidates
  rw [testCandidates, hothers, List.cons_append, List.filter_cons_of_pos (by simpa using hne)]
  exact ⟨_, rfl⟩

end candidates

/-! ### The search -/

namespace Workspace

variable {w w' : Workspace} {new : Place} {source root p : Path}

section firstFile

variable {rest : List Path} {o : Option Path}

/-- A search finds one of the paths it looks at. -/
theorem mem_of_firstFile? {ps : List Path} (h : w.firstFile? ps = .ok (some p)) : p ∈ ps := by
  induction ps with
  | nil => cases h
  | cons q rest ih =>
    by_cases hfile : w.isFile q = true
    · rw [firstFile?_cons_of_isFile hfile] at h
      obtain rfl := Option.some.inj (Except.ok.inj h)
      exact List.mem_cons_self ..
    · rw [firstFile?_cons_of_isFile_false (Bool.eq_false_iff.mpr hfile)
        (ne_nameTooLong_of_firstFile? h)] at h
      exact List.mem_cons_of_mem _ (ih h)

/-- **The first file of some paths.** Where a search was not stopped and nothing new stops it, it
finds a file if it found one. -/
theorem firstFile?_grow {ps : List Path}
    (hfiles : ∀ p ∈ ps, w.isFile p = true → w'.isFile p = true)
    (hstops : ∀ p ∈ ps, w'.entry p = .error .nameTooLong → w.entry p = .error .nameTooLong)
    (h : w.firstFile? ps = .ok o) :
    ∃ o', w'.firstFile? ps = .ok o' ∧ (o.isSome = true → o'.isSome = true) := by
  induction ps with
  | nil => exact ⟨o, h, id⟩
  | cons p rest ih =>
    obtain ⟨hfile, hfiles⟩ := List.forall_mem_cons.mp hfiles
    obtain ⟨hstop, hstops⟩ := List.forall_mem_cons.mp hstops
    have hshort := ne_nameTooLong_of_firstFile? h
    by_cases hfile' : w'.isFile p = true
    · exact ⟨some p, firstFile?_cons_of_isFile hfile', fun _ => rfl⟩
    · have hnoFile : w.isFile p = false := Bool.eq_false_iff.mpr fun hp => hfile' (hfile hp)
      rw [firstFile?_cons_of_isFile_false hnoFile hshort] at h
      rw [firstFile?_cons_of_isFile_false (Bool.eq_false_iff.mpr hfile')
        fun he => hshort (hstop he)]
      exact ih hfiles hstops h

end firstFile

theorem locate_append {directory : Path} (habsolute : directory.isAbsolute = true)
    (steps : List String) :
    w.locate { directory with segments := directory.segments ++ steps } =
      follow w.top linkBudget [] (directory.segments ++ steps) :=
  locate_of_isAbsolute (p := { directory with segments := directory.segments ++ steps }) habsolute

/-- Nothing below a directory is found to be too long that was not. -/
theorem Gains.nameTooLong_of_reachedFrom (h : w.Gains w' new) (htop : w.top.DirectoryAt [])
    {directory : Path} {there : Place} (habsolute : directory.isAbsolute = true)
    (hthere : w.locate directory = .ok there) (hp : p.ReachedFrom directory)
    (hlong : w'.entry p = .error .nameTooLong) : w.entry p = .error .nameTooLong := by
  obtain ⟨steps, rfl, hdirections, hplain⟩ := hp
  rw [entry_eq_nameTooLong_iff, locate_append habsolute] at hlong ⊢
  obtain ⟨left, hroute⟩ := exists_route_of_locate habsolute hthere
  have hsteps : Route w.top left there steps (.error .nameTooLong) := by
    refine Route.nameTooLong_of_grow h.grew h.links (hroute.realAt (Entry.realAt_nil htop))
      hroute.left_le hdirections hplain ?_
    exact (hroute.grow h.grew rfl nofun).of_append (exists_route_of_follow_error hlong)
  exact (hroute.append hsteps).follow_eq

/-- The directory of a file is where its path leads without the last name. -/
theorem exists_locate_parent (habsolute : source.isAbsolute = true)
    (hne : source.segments ≠ []) (hfile : w.isFile source = true) :
    ∃ there, w.locate source.parent = .ok there ∧ w.top.DirectoryAt there ∧
      ∀ s ∈ source.segments, isDirection s ∨ IsPlain s := by
  obtain ⟨content, he⟩ := isFile_iff.mp hfile
  obtain ⟨place, hplace, -⟩ := entry_eq_ok_iff.mp he
  obtain ⟨left, hroute⟩ := exists_route_of_locate habsolute hplace
  have hplain := hroute.plain_of_ok
  rw [← List.dropLast_append_getLast hne] at hroute
  obtain ⟨error, -, herror⟩ | ⟨there, left', hthere, hlast⟩ := hroute.append_cases
  · cases herror
  · refine ⟨there, ?_, hlast.directoryAt (List.cons_ne_nil _ _), hplain⟩
    exact (locate_of_isAbsolute (p := source.parent) habsolute).trans hthere.follow_eq

/-- Where the first name that is looked for does not stop the search, it is not too long. -/
theorem isPlain_firstTestName {there : Place} (habsolute : source.isAbsolute = true)
    (hthere : w.locate source.parent = .ok there) (hdirectory : w.top.DirectoryAt there)
    (hshort : w.entry (source.parent.child (firstTestName source)) ≠ .error .nameTooLong) :
    IsPlain (firstTestName source) := by
  have hparent : source.parent.isAbsolute = true := habsolute
  have hname : ¬isDirection (firstTestName source) := not_isDirection_marked (Or.inl rfl) _ _
  refine ⟨hname, Nat.le_of_not_lt fun hlong => hshort ?_⟩
  obtain ⟨left, hroute⟩ := exists_route_of_locate hparent hthere
  rw [Path.child_of_ne fun hempty => hname (Or.inl hempty), entry_eq_nameTooLong_iff,
    locate_append hparent]
  exact (hroute.append (.tooLong hdirectory hname hlong)).follow_eq

/-- A tree without any directory gains nothing. -/
theorem Gains.eq_of_not_directoryAt (h : w.Gains w' new) (htop : ¬w.top.DirectoryAt []) :
    w' = w := by
  obtain ⟨top, current, home, readers⟩ := w
  obtain ⟨top', current', home', readers'⟩ := w'
  obtain ⟨e, he, hkind⟩ := h.grew.kept (p := []) rfl
  obtain rfl : top' = e := Option.some.inj he
  obtain hsame | ⟨es, -, hes, -⟩ := hkind.eq_or_directory
  · rw [mk.injEq]
    exact ⟨hsame, h.current, h.home, h.readers⟩
  · exact absurd ⟨es, congrArg some hes⟩ htop

/-- A file has tests when a search for them has found one. -/
theorem discoverTests_eq_ok_iff {coverage : TestCoverage} :
    w.discoverTests source root = .ok coverage ↔
      ∃ o, w.firstFile? (testCandidates source root) = .ok o ∧
        o.elim TestCoverage.missing (w.coverageBy root) = coverage := by
  unfold discoverTests
  generalize w.firstFile? (testCandidates source root) = search
  cases search with
  | error f => simp
  | ok o =>
    cases o with
    | none => simp
    | some found => simp

theorem hasTest_elim (w : Workspace) (root : Path) (o : Option Path) :
    (o.elim TestCoverage.missing (w.coverageBy root)).hasTest = o.isSome := by
  cases o with
  | none => rfl
  | some found => rfl

theorem segments_ne_nil_of_isFile (habsolute : p.isAbsolute = true) (htop : w.top.DirectoryAt [])
    (hfile : w.isFile p = true) : p.segments ≠ [] := by
  intro hnil
  obtain ⟨content, he⟩ := isFile_iff.mp hfile
  obtain ⟨place, hplace, hat⟩ := entry_eq_ok_iff.mp he
  rw [locate_of_isAbsolute habsolute, hnil, Route.arrives.follow_eq] at hplace
  obtain rfl := Except.ok.inj hplace
  obtain ⟨es, hes⟩ := htop
  cases hes.symm.trans hat

/-- **A file with tests keeps having tests**, and they can still be looked for. -/
theorem Gains.discoverTests_grow (h : w.Gains w' new) (hsource : source.isAbsolute = true)
    (hdirections : ∀ s ∈ source.segments, ¬isDirection s) (hfile : w.isFile source = true)
    (hroot : root.isAbsolute = true) (hlocated : ∃ there, w.locate root = .ok there)
    {coverage : TestCoverage} (hcoverage : w.discoverTests source root = .ok coverage) :
    ∃ coverage', w'.discoverTests source root = .ok coverage' ∧
      (coverage.hasTest = true → coverage'.hasTest = true) := by
  by_cases htop : w.top.DirectoryAt []
  · have hne := segments_ne_nil_of_isFile hsource htop hfile
    obtain ⟨above, habove, hdirectory, hplain⟩ := exists_locate_parent hsource hne hfile
    have hparent : source.parent.isAbsolute = true := hsource
    obtain ⟨there, hthere⟩ := hlocated
    have hsegments : ∀ s ∈ source.segments, IsPlain s := fun s hs =>
      (hplain s hs).resolve_left (hdirections s hs)
    obtain ⟨o, ho, hsome⟩ := discoverTests_eq_ok_iff.mp hcoverage
    have hfirst : IsPlain (firstTestName source) := by
      obtain ⟨others, hothers⟩ := testCandidates_eq_cons source root
      rw [hothers] at ho
      exact isPlain_firstTestName hsource habove hdirectory (ne_nameTooLong_of_firstFile? ho)
    have hreached : ∀ p ∈ testCandidates source root,
        p.ReachedFrom source.parent ∨ p.ReachedFrom root := fun p hp =>
      reachedFrom_of_mem_testCandidates hsegments hne hfirst hp
    have hfiles : ∀ p ∈ testCandidates source root, w.isFile p = true → w'.isFile p = true := by
      intro p hp hfile
      rcases hreached p hp with hp | hp
      · exact h.isFile (hp.isAbsolute hparent) hfile
      · exact h.isFile (hp.isAbsolute hroot) hfile
    have hstops : ∀ p ∈ testCandidates source root,
        w'.entry p = .error .nameTooLong → w.entry p = .error .nameTooLong := by
      intro p hp hlong
      rcases hreached p hp with hp | hp
      · exact h.nameTooLong_of_reachedFrom htop hparent habove hp hlong
      · exact h.nameTooLong_of_reachedFrom htop hroot hthere hp hlong
    obtain ⟨o', ho', hgrow⟩ := firstFile?_grow hfiles hstops ho
    refine ⟨_, discoverTests_eq_ok_iff.mpr ⟨o', ho', rfl⟩, ?_⟩
    rwa [← hsome, hasTest_elim, hasTest_elim]
  · rw [h.eq_of_not_directoryAt htop]
    exact ⟨coverage, hcoverage, id⟩

end Workspace

end Preflight
