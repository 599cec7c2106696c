import Preflight.Proofs.FileTree.RealPath
import Preflight.Proofs.FileTree.Walk
import Preflight.Proofs.Tests.Candidates

/-!
# Searches that nothing stops

Only a name that is too long stops a search. The names of a file tree are not too long, and where
links lead by such names too, what can be too long are the names that the tests of a file would have
and those of manifests. Where these fit as well, every search ends.

## Main definitions

* `Workspace.SearchFits`: a tree in which no search for tests is stopped.

## Main results

* `Route.ne_nameTooLong`: a route along names that fit.
* `forall_segments_of_mem_testCandidates`: the names on the paths where tests are looked for.
* `Workspace.SearchFits.exists_projectRootAbove`: a search for a project has a result.
* `Workspace.SearchFits.exists_discoverTests`: a search for tests has a result.
-/

namespace Preflight

/-- A segment that is not too long to be looked up. -/
def Fits (s : String) : Prop := s.utf8ByteSize ≤ nameLimit

/-- No segment on a route is too long, if neither its own nor those of links are. -/
theorem Route.ne_nameTooLong {top : Entry}
    (hlinks : ∀ place target, top.at? place = some (.link target) →
      ∀ s ∈ linkSegments target, Fits s)
    {budget : Nat} {place : Place} {segments : List String} {o : Except FileError (Place × Nat)}
    (h : Route top budget place segments o) (hsegments : ∀ s ∈ segments, Fits s) :
    o ≠ .error .nameTooLong := by
  induction h with
  | arrives | noDirectory _ | missing _ _ _ | noLinksLeft _ _ _ => exact nofun
  | tooLong _ _ hlong =>
    exact absurd (hsegments _ (List.mem_cons_self ..)) (Nat.not_le.mpr hlong)
  | stays _ _ _ ih | goesUp _ _ ih | goesDown _ _ _ _ _ ih =>
    exact ih fun s hs => hsegments s (List.mem_cons_of_mem _ hs)
  | followsLink _ _ hlink _ ih =>
    refine ih fun s hs => ?_
    rcases List.mem_append.mp hs with hs | hs
    · exact hlinks _ _ hlink s hs
    · exact hsegments s (List.mem_cons_of_mem _ hs)

/-! ### Where tests are looked for -/

namespace Path

theorem join_child {p : Path} (h : p.anchor = .here) (directory : Path) (name : String) :
    directory.join (p.child name) = (directory.join p).child name := by
  have hjoin : ∀ q : Path, q.anchor = .here →
      directory.join q = { directory with segments := directory.segments ++ q.segments } := by
    intro q hq
    rw [join, isAbsolute, hq]
    rfl
  by_cases hname : name = ""
  · rw [child, if_pos hname, child, if_pos hname]
  · rw [child_of_ne hname, child_of_ne hname, hjoin p h,
      hjoin { p with segments := p.segments ++ [name] } h, List.append_assoc]

/-- The name of a file, as a path from the directory of the file. -/
def alone (source : Path) : Path := ⟨.here, [source.name]⟩

end Path

section candidates

variable {source root p : Path}

/-- The tests beside a file are called after its name alone. -/
theorem candidatesBeside_eq_map (source : Path) :
    candidatesBeside source = (candidatesBeside source.alone).map source.parent.join := by
  have hstem : source.alone.stem = source.stem := rfl
  have hsuffix : source.alone.suffix = source.suffix := rfl
  have hparent : source.alone.parent = ⟨.here, []⟩ := rfl
  have hchild : ∀ name, source.parent.join (Path.child ⟨.here, []⟩ name) =
      source.parent.child name := by
    intro name
    rw [Path.join_child rfl, Path.join_nil]
  have hsibling : ∀ name,
      source.parent.join (Path.child (Path.child ⟨.here, []⟩ testSibling) name) =
        (source.parent.child testSibling).child name := by
    intro name
    rw [Path.join_child rfl, hchild]
  simp only [candidatesBeside, hstem, hsuffix, hparent, List.map_append, List.map_cons,
    List.map_nil, hchild, hsibling, List.map_flatMap]

/-- The name that is looked for first is that of a test beside the file. -/
theorem firstTestName_mem (source : Path) :
    ∃ q ∈ candidatesBeside source.alone, firstTestName source ∈ q.segments := by
  have hname : firstTestName source ≠ "" := fun heq =>
    not_isDirection_marked (Or.inl rfl) source.stem source.suffix (Or.inl heq)
  refine ⟨Path.child ⟨.here, []⟩ (firstTestName source), ?_, ?_⟩
  · exact List.mem_append_left _ (List.mem_cons_self ..)
  · rw [Path.child_of_ne hname]
    exact List.mem_append_right _ (List.mem_singleton_self _)

section segments

variable {P : String → Prop}

theorem forall_segments_child {name : String} (hp : ∀ s ∈ p.segments, P s) (hname : P name) :
    ∀ s ∈ (p.child name).segments, P s := by
  intro s hs
  by_cases hempty : name = ""
  · rw [Path.child, if_pos hempty] at hs
    exact hp s hs
  · rw [Path.child_of_ne hempty] at hs
    rcases List.mem_append.mp hs with hs | hs
    · exact hp s hs
    · exact List.mem_singleton.mp hs ▸ hname

theorem forall_segments_join {q : Path} (hp : ∀ s ∈ p.segments, P s)
    (hq : ∀ s ∈ q.segments, P s) : ∀ s ∈ (p.join q).segments, P s := by
  intro s hs
  rw [Path.join] at hs
  split at hs
  · exact hq s hs
  · rcases List.mem_append.mp hs with hs | hs
    · exact hp s hs
    · exact hq s hs

/-- **The names on the paths where tests are looked for** are those on the way to the file and to
the top of the project, those of the test directories, and those that a test beside the file may
have. -/
theorem forall_segments_of_mem_testCandidates (hsource : ∀ s ∈ source.segments, P s)
    (hroot : ∀ s ∈ root.segments, P s) (htop : ∀ top ∈ testDirectories, P top)
    (htests : ∀ q ∈ candidatesBeside source.alone, ∀ s ∈ q.segments, P s)
    (hp : p ∈ testCandidates source root) : ∀ s ∈ p.segments, P s := by
  have hparent : ∀ s ∈ source.parent.segments, P s := fun s hs =>
    hsource s ((List.dropLast_sublist source.segments).mem hs)
  rw [testCandidates, mem_distinct, List.mem_filter, List.mem_append] at hp
  obtain ⟨hp | hp, -⟩ := hp
  · rw [candidatesBeside_eq_map] at hp
    obtain ⟨q, hq, rfl⟩ := List.mem_map.mp hp
    exact forall_segments_join hparent (htests q hq)
  · obtain ⟨top, hmem, hp⟩ := List.mem_flatMap.mp hp
    obtain ⟨below, heq, hbelow⟩ := exists_of_mem_candidatesBelow hp
    obtain ⟨q, hq, hfirst⟩ := firstTestName_mem source
    rw [heq]
    refine forall_segments_child (forall_segments_join
      (forall_segments_child hroot (htop top hmem)) fun s hs => ?_) (htests q hq _ hfirst)
    -- the directory is on the way to the file
    obtain ⟨d, hd, hs⟩ := hbelow s hs
    obtain ⟨-, -, hsegments⟩ := Path.eq_join_of_relativeTo?_eq_some hd
    exact hparent s (hsegments ▸ List.mem_append_right _ hs)

end segments

end candidates

/-! ### The search -/

namespace Workspace

variable {w : Workspace} {source root p : Path}

/-- A file tree in which no search for tests is stopped: its names and those by which links lead are
not too long, and neither are those that the tests of its script files may have. -/
structure SearchFits (w : Workspace) : Prop where
  names : w.NamesFit
  links : ∀ place target, w.top.at? place = some (.link target) →
    ∀ s ∈ linkSegments target, Fits s
  tests : ∀ name ∈ w.top.names, Selection.takesName ⟨[], graphExtensions, false⟩ name = true →
    ∀ q ∈ candidatesBeside ⟨.here, [name]⟩, ∀ s ∈ q.segments, Fits s

/-- A path whose segments fit is never found to be too long. -/
theorem SearchFits.entry_ne_nameTooLong (h : w.SearchFits) (hp : ∀ s ∈ p.segments, Fits s) :
    w.entry p ≠ .error .nameTooLong := by
  intro hlong
  have hroute := exists_route_of_follow_error (entry_eq_nameTooLong_iff.mp hlong)
  exact hroute.ne_nameTooLong h.links hp rfl

/-- A search that no name stops has a result. -/
theorem exists_firstFile? {ps : List Path} (h : ∀ p ∈ ps, w.entry p ≠ .error .nameTooLong) :
    ∃ o, w.firstFile? ps = .ok o := by
  induction ps with
  | nil => exact ⟨none, rfl⟩
  | cons p rest ih =>
    obtain ⟨hshort, hrest⟩ := List.forall_mem_cons.mp h
    by_cases hfile : w.isFile p = true
    · exact ⟨some p, firstFile?_cons_of_isFile hfile⟩
    · rw [firstFile?_cons_of_isFile_false (Bool.eq_false_iff.mpr hfile) hshort]
      exact ih hrest

/-- **A search for a project ends** where the names of manifests fit. -/
theorem SearchFits.exists_projectRootAbove (h : w.SearchFits) {manifests : List String}
    {real : Path} (htop : real.anchor = .top) (hreal : ∀ s ∈ real.segments, Fits s)
    (hmanifests : ∀ name ∈ manifests, ∀ s ∈ (Path.ofString name).segments, Fits s) :
    ∃ root, w.projectRootAbove manifests real = .ok root := by
  obtain ⟨found, hfound⟩ : ∃ found, ((placesAbove (w.searchStart real)).map pathOf).findM?
      (w.hasManifest manifests) = .ok found := by
    refine exists_findM? fun directory hdirectory => ?_
    obtain ⟨place, hplace, rfl⟩ := List.mem_map.mp hdirectory
    have habove := (isPrefix_of_mem_placesAbove hplace).trans (w.searchStart_isPrefix real)
    obtain ⟨o, ho⟩ : ∃ o, w.firstFile? (manifests.map fun name =>
        (pathOf place).join (Path.ofString name)) = .ok o := by
      refine exists_firstFile? fun p hp => ?_
      obtain ⟨name, hname, rfl⟩ := List.mem_map.mp hp
      exact h.entry_ne_nameTooLong
        (forall_segments_join (fun s hs => hreal s (habove.subset hs)) (hmanifests name hname))
    exact ⟨o.isSome, map_eq_ok_iff.mpr ⟨o, ho, rfl⟩⟩
  exact ⟨_, (projectRootAbove_eq_ok_iff htop).mpr
    ⟨h.entry_ne_nameTooLong hreal, found, hfound, rfl⟩⟩

/-- The segments of a path of names that leads somewhere are names of the tree. -/
theorem mem_names_of_entry {e : Entry} (he : w.entry p = .ok e)
    (hnames : ∀ s ∈ p.segments, ¬isDirection s) : ∀ s ∈ p.segments, s ∈ w.top.names := by
  obtain ⟨place, hplace, -⟩ := entry_eq_ok_iff.mp he
  obtain ⟨left, hroute⟩ := exists_route_of_follow hplace
  intro s hs
  exact (hroute.mem_names_of_ok s hs).resolve_left (hnames s hs)

/-- **A search for the tests of a script file has a result.** -/
theorem SearchFits.exists_discoverTests (h : w.SearchFits) (hfile : w.isFile source = true)
    (hnames : ∀ s ∈ source.segments, ¬isDirection s)
    (hscript : Selection.takesName ⟨[], graphExtensions, false⟩ source.name = true)
    (hroot : ∀ s ∈ root.segments, Fits s) :
    ∃ coverage, w.discoverTests source root = .ok coverage := by
  obtain ⟨content, he⟩ := isFile_iff.mp hfile
  have hsegments := mem_names_of_entry he hnames
  have hne : source.segments ≠ [] := by
    intro hnil
    rw [Path.name, hnil] at hscript
    exact absurd hscript (by decide +kernel)
  have hsource : ∀ s ∈ source.segments, Fits s := fun s hs => (h.names s (hsegments s hs)).1
  have htests := h.tests source.name (hsegments _ (Path.name_mem hne)) hscript
  obtain ⟨o, ho⟩ : ∃ o, w.firstFile? (testCandidates source root) = .ok o :=
    exists_firstFile? fun p hp =>
      h.entry_ne_nameTooLong (forall_segments_of_mem_testCandidates hsource hroot
        (fun _ htop => (isPlain_testDirectories htop).2) htests hp)
  exact ⟨_, discoverTests_eq_ok_iff.mpr ⟨o, ho, rfl⟩⟩

end Workspace

end Preflight
