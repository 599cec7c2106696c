import Preflight.Proofs.FileTree.Gains
import Preflight.Proofs.Graph.Coverage

/-!
# Scans of a project that gains a test

A scan leaves tests out, and so does the import graph. When a project gains a test that mends no
link, walks take what they took, the rules of the project are the same because a test is no ignore
file, and so the scan finds the same files and the graph is the same.

## Main definitions

* `Workspace.GainsTest`: a project that gained a test.

## Main results

* `Workspace.Gains.sourceFiles_eq`: a walk that leaves the new file out.
* `Workspace.GainsTest.ignoreRules_eq`, `result_buildGraph_eq`: rules and import graphs.
* `Workspace.GainsTest.scan_eq`: scans.
-/

namespace Preflight

namespace Entry

/-- A tree grew by something else than directories only at the new place. -/
theorem GrewBy.leafAt {top top' : Entry} {new place : Place} (h : top.GrewBy top' new)
    (hleaf : top'.LeafAt place) (hne : place ≠ new) :
    ∃ e e', top.at? place = some e ∧ top'.at? place = some e' ∧ e.SameKind e' ∧
      e.isDirectory = false := by
  obtain ⟨e', hat', hdirectory⟩ := hleaf
  cases hat : top.at? place with
  | none =>
    obtain ⟨-, hkind | ⟨rfl, -⟩⟩ := h.fresh hat hat'
    · rw [hdirectory] at hkind
      cases hkind
    · exact absurd rfl hne
  | some e =>
    obtain ⟨c, hc, hkind⟩ := h.kept hat
    rw [hat', Option.some.injEq] at hc
    subst hc
    exact ⟨e, e', rfl, hat', hkind, hkind.isDirectory_eq.trans hdirectory⟩

end Entry

/-- A test has a name, and is no ignore file. -/
theorem ne_of_isTestFile {rel : Place} (h : isTestFile ⟨.here, rel⟩ = true) :
    rel ≠ [] ∧ rel ≠ [ignoreFileName] := by
  constructor
  · rintro rfl
    exact absurd h (by decide)
  · rintro rfl
    exact absurd h (by decide)

namespace Workspace

variable {w w' : Workspace} {new : Place}

/-! ### Walks -/

/-- **A walk that leaves the new file out** takes what it took. -/
theorem Gains.sourceFiles_eq (h : w.Gains w' new) (hw : w.WellNamed) (hw' : w'.WellNamed)
    (hdistinct : w.DistinctNames) (hdistinct' : w'.DistinctNames) {s : Selection} {base : Place}
    (hnew : s.takes (placeBelow base new) = false) (root : Place) :
    w'.sourceFiles s base root = w.sourceFiles s base root := by
  refine sourceFiles_ext fun place => ?_
  rw [mem_sourceFiles_iff hw hdistinct, mem_sourceFiles_iff hw' hdistinct']
  constructor
  · rintro ⟨hfile, htakes, name, rest, rfl, hleaf, hentered⟩
    have hne : root ++ name :: rest ≠ new := by
      rintro rfl
      rw [hnew] at htakes
      cases htakes
    obtain ⟨e, e', hat, hat', hkind, hdirectory⟩ := h.grew.leafAt hleaf hne
    refine ⟨?_, htakes, name, rest, rfl, ⟨e, hat, hdirectory⟩, hentered⟩
    have htop : w.top.DirectoryAt [] :=
      Entry.directoryAt_nil (Entry.directoryAt_of_at?_append hat)
    refine h.isFile_of_locate rfl htop (fun hmissing => ?_) hfile
    obtain ⟨content, hentry⟩ := isFile_iff.mp hfile
    obtain ⟨there, hthere, -⟩ := entry_eq_ok_iff.mp hentry
    cases e with
    | directory _ => cases hdirectory
    | link target =>
      -- a link that was broken would be mended
      obtain ⟨error, herror, -⟩ := h.links _ _ hat hmissing
      cases herror.symm.trans hthere
    | file _ =>
      -- a file was found by its names, which are not too long since they are looked up now
      obtain ⟨left, hroute⟩ := exists_route_of_locate rfl hthere
      have hplain : ∀ t ∈ root ++ name :: rest, IsPlain t := fun t ht =>
        (hroute.plain_of_ok t ht).resolve_left
          (not_isDirection_of_isFileName (Entry.names_of_at? hw hat t ht))
      have hstraight : Route w.top linkBudget [] (root ++ name :: rest) _ :=
        Route.straight hplain hat rfl linkBudget
      cases hstraight.follow_eq.symm.trans hmissing
  · rintro ⟨hfile, htakes, name, rest, rfl, ⟨e, hat, hdirectory⟩, hentered⟩
    obtain ⟨e', hat', hkind⟩ := h.grew.kept hat
    exact ⟨h.isFile rfl hfile, htakes, name, rest, rfl,
      ⟨e', hat', hkind.isDirectory_eq.symm.trans hdirectory⟩, hentered⟩

/-! ### Rules -/

/-- Without an ignore file a project has the given rules only. -/
theorem ignoreRules_of_isFile_false {root : Path} (h : w.isFile (root.child ignoreFileName) = false)
    (excluded : List String) :
    w.ignoreRules root excluded =
      .ok (excluded.filterMap fun pattern => IgnoreRule.ofPattern? pattern.toList false) := by
  have hbytes : ∃ e, w.readBytes (root.child ignoreFileName) = .error e := by
    rw [readBytes]
    rw [isFile] at h
    cases he : w.entry (root.child ignoreFileName) with
    | error e => exact ⟨e, rfl⟩
    | ok e =>
      cases e with
      | file _ => simp [he, Entry.isFile] at h
      | link _ | directory _ => exact ⟨_, rfl⟩
  obtain ⟨e, he⟩ := hbytes
  rw [ignoreRules, readText, he]

/-- Where a name was missing in a directory and leads somewhere now, it stands for the new file or a
directory on the way to it. -/
theorem Gains.at?_of_missing (h : w.Gains w' new) {there : Place} {left : Nat} {s : String}
    {arrival : Place × Nat} (hreal : w.top.RealAt there) (hleft : left ≤ linkBudget)
    (hs : ¬isDirection s) (hmissing : Route w.top left there [s] (.error .notFound))
    (hfound : Route w'.top left there [s] (.ok arrival)) :
    w.top.DirectoryAt there ∧ w.top.at? (there ++ [s]) = none ∧ arrival.1 = there ++ [s] := by
  cases hmissing with
  | stays _ hdirection => exact absurd (hdirection.imp_right Or.inl) hs
  | goesUp => exact absurd (Or.inr (Or.inr rfl)) hs
  | missing hdirectory hplain hnone =>
    refine ⟨hdirectory, hnone, ?_⟩
    cases hfound with
    | stays _ hdirection => exact absurd (hdirection.imp_right Or.inl) hs
    | goesUp => exact absurd (Or.inr (Or.inr rfl)) hs
    | followsLink _ _ hlink =>
      rw [h.grew.at?_eq_link_iff, hnone] at hlink
      cases hlink
    | goesDown _ _ _ _ harrives =>
      cases harrives
      rfl
  | @followsLink budget _ _ _ target _ hdirectory hplain hlink hroute =>
    -- a link that was broken would be mended
    rw [List.append_nil] at hroute
    obtain ⟨o, ho⟩ := exists_route w'.top budget (linkStart target there) (linkSegments target)
    obtain ⟨e, rfl, -⟩ := Route.link_notFound_grow h.grew h.links hreal hdirectory hplain hlink
      hleft hroute ho
    have hlost := Route.followsLink (h.grew.directoryAt hdirectory) hplain
      (h.grew.at?_eq_link_iff.mpr hlink) (ho.append_error [])
    cases hfound.unique hlost
  | goesDown _ _ _ _ hroute => cases hroute

/-- What is an ignore file was one, unless it is new. -/
theorem Gains.isFile_ignoreFile {root : Path} {rel there : Place}
    (h : w.Gains w' (root.segments ++ rel)) (htop : root.anchor = .top)
    (hdirections : ∀ s ∈ root.segments, ¬isDirection s) (hroot : w.locate root = .ok there)
    (hrel : rel ≠ [] ∧ rel ≠ [ignoreFileName])
    (hfile : w'.isFile (root.child ignoreFileName) = true) :
    w.isFile (root.child ignoreFileName) = true := by
  have habsolute : root.isAbsolute = true := Path.isAbsolute_of_anchor htop
  have hchild : (root.child ignoreFileName).isAbsolute = true := habsolute
  obtain ⟨content, hentry⟩ := isFile_iff.mp hfile
  obtain ⟨place, hplace, hat'⟩ := entry_eq_ok_iff.mp hentry
  obtain ⟨left', hfound⟩ : ∃ left', Route w'.top linkBudget [] (root.segments ++ [ignoreFileName])
      (.ok (place, left')) := exists_route_of_locate hchild hplace
  have htopDirectory : w.top.DirectoryAt [] :=
    h.grew.directoryAt_of_isSome rfl (hfound.directoryAt (by simp))
  refine h.isFile_of_locate hchild htopDirectory (fun hmissing => ?_) hfile
  have hlost : Route w.top linkBudget [] (root.segments ++ [ignoreFileName]) (.error .notFound) :=
    route_of_locate_error hchild hmissing
  -- the directory of the ignore file is where the top of the project leads
  obtain ⟨left, hroute⟩ := exists_route_of_locate habsolute hroot
  have hreal := hroute.realAt (Entry.realAt_nil htopDirectory)
  have hlostThere : Route w.top left there [ignoreFileName] (.error .notFound) :=
    hroute.of_append hlost
  have hfoundThere : Route w'.top left there [ignoreFileName] (.ok (place, left')) :=
    (hroute.grow h.grew rfl nofun).of_append hfound
  obtain ⟨hdirectory, hnone, rfl⟩ :=
    h.at?_of_missing hreal hroute.left_le
      (not_isDirection_of_isFileName (by decide)) hlostThere hfoundThere
  obtain ⟨-, hkind | ⟨hnew, -⟩⟩ := h.grew.fresh hnone hat'
  · cases hkind
  · obtain ⟨rel, last, rfl⟩ := (List.eq_nil_or_concat rel).resolve_left hrel.1
    rw [List.concat_eq_append, ← List.append_assoc] at hnew
    obtain ⟨rfl, hlast⟩ := List.append_inj' hnew rfl
    cases rel with
    | nil => exact hrel.2 hlast.symm
    | cons s rest =>
      -- the top of the project is a real directory, so it does not lead below itself
      obtain ⟨es, hes⟩ := hdirectory
      obtain ⟨es', hes'⟩ := Entry.directoryAt_of_at?_append hes
      have hplain : ∀ t ∈ root.segments, IsPlain t := fun t ht =>
        (hroute.plain_of_ok t ht).resolve_left (hdirections t ht)
      have hstraight : Route w.top linkBudget [] root.segments _ :=
        Route.straight hplain hes' rfl linkBudget
      have hsame := congrArg Prod.fst (Except.ok.inj (hroute.unique hstraight))
      simp at hsame

/-! ### A project and its new test -/

/-- A project at a real path that gained a test, in a file tree as a file system holds it. -/
structure GainsTest (w w' : Workspace) (root : Path) (rel : Place) : Prop extends
    w.Gains w' (root.segments ++ rel) where
  test : isTestFile ⟨.here, rel⟩ = true
  anchor : root.anchor = .top
  directions : ∀ s ∈ root.segments, ¬isDirection s
  located : ∃ there, w.locate root = .ok there
  wellNamed : w.WellNamed ∧ w'.WellNamed
  distinctNames : w.DistinctNames ∧ w'.DistinctNames

namespace GainsTest

variable {root : Path} {rel : Place}

/-- Walks of the project leave the new test out. -/
theorem walk_eq (h : w.GainsTest w' root rel) (rules : List IgnoreRule) (extensions : List String)
    (directory : Place) :
    w'.sourceFiles ⟨rules, extensions, false⟩ root.segments directory =
      w.sourceFiles ⟨rules, extensions, false⟩ root.segments directory := by
  refine h.sourceFiles_eq h.wellNamed.1 h.wellNamed.2 h.distinctNames.1 h.distinctNames.2 ?_
    directory
  rw [placeBelow_append, Selection.takes, h.test]
  simp

/-- **The rules of the project** are the same. -/
theorem ignoreRules_eq (h : w.GainsTest w' root rel) (excluded : List String) :
    w'.ignoreRules root excluded = w.ignoreRules root excluded := by
  have habsolute : (root.child ignoreFileName).isAbsolute = true :=
    Path.isAbsolute_of_anchor h.anchor
  obtain ⟨there, hthere⟩ := h.located
  by_cases hfile : w.isFile (root.child ignoreFileName) = true
  · rw [ignoreRules, ignoreRules, h.readText_eq habsolute hfile]
  · have hnoFile : w'.isFile (root.child ignoreFileName) = false :=
      Bool.eq_false_iff.mpr fun hfile' => hfile
        (h.isFile_ignoreFile h.anchor h.directions hthere (ne_of_isTestFile h.test) hfile')
    rw [ignoreRules_of_isFile_false hnoFile,
      ignoreRules_of_isFile_false (Bool.eq_false_iff.mpr hfile)]

/-- **The import graph of the project** is the same. -/
theorem result_buildGraph_eq (h : w.GainsTest w' root rel) (settings : GraphSettings) :
    (buildGraph settings w' root).result = (buildGraph settings w root).result := by
  have hsources : w'.graphSources settings root = w.graphSources settings root := by
    rw [graphSources, graphSources, h.ignoreRules_eq]
    cases w.ignoreRules root settings.excludePaths with
    | error _ => rfl
    | ok rules =>
      dsimp only [Except.map]
      rw [h.walk_eq]
      refine congrArg Except.ok (List.filterMap_congr fun place hplace => ?_)
      rw [h.readTextLenient_eq rfl (mem_sourceFiles hplace).1]
  rw [result_buildGraph, result_buildGraph, hsources]

end GainsTest

/-! ### Scans -/

section scan

variable {settings : ScanSettings} {name : String} {found : ScanTarget}

/-- The project of a scan is at a real path that leads somewhere. -/
theorem scan_root (hscan : w.scan settings name = .ok found) :
    found.projectRoot.anchor = .top ∧ (∀ s ∈ found.projectRoot.segments, ¬isDirection s) ∧
      ∃ there, w.locate found.projectRoot = .ok there := by
  obtain ⟨real, hreal, hexists, -⟩ := scan_eq_ok_iff.mp hscan
  obtain ⟨real', hreal', hanchor, htop, hdirections, below, hbelow⟩ := scan_project hscan
  obtain rfl := Except.ok.inj (hreal'.symm.trans hreal)
  obtain ⟨e, he⟩ := exists?_eq_true_iff.mp hexists
  obtain ⟨place, hplace, -⟩ := entry_eq_ok_iff.mp he
  refine ⟨htop, hdirections, ?_⟩
  -- what is above the target is passed on the way to it
  obtain ⟨left, hroute⟩ := exists_route_of_locate (Path.isAbsolute_of_anchor hanchor) hplace
  rw [← hbelow] at hroute
  obtain ⟨error, -, herror⟩ | ⟨there, left', hthere, -⟩ := hroute.append_cases
  · cases herror
  · exact ⟨there, (locate_of_isAbsolute (Path.isAbsolute_of_anchor htop)).trans hthere.follow_eq⟩

/-- A project gains a test when the test is put where nothing was and mends no link. -/
theorem gainsTest_withFile {rel : Place} {content : List UInt8} (hw : w.WellNamed)
    (hdistinct : w.DistinctNames) (hscan : w.scan settings name = .ok found)
    (hrel : ∀ s ∈ rel, isFileName s = true) (htest : isTestFile ⟨.here, rel⟩ = true)
    (hnew : w.top.at? (found.projectRoot.segments ++ rel) = none)
    (hlinks : w.top.MendsNoLink
      (w.withFile (found.projectRoot.segments ++ rel) content).top) :
    w.GainsTest (w.withFile (found.projectRoot.segments ++ rel) content) found.projectRoot rel := by
  obtain ⟨htop, hdirections, there, hthere⟩ := scan_root hscan
  have hnames : ∀ s ∈ found.projectRoot.segments ++ rel, isFileName s = true := by
    intro s hs
    rcases List.mem_append.mp hs with hs | hs
    · exact (names_of_follow hw hthere s hs).resolve_left (hdirections s hs)
    · exact hrel s hs
  exact
    { gains_withFile hnew hlinks with
      test := htest
      anchor := htop
      directions := hdirections
      located := ⟨there, hthere⟩
      wellNamed := ⟨hw, Entry.wellNamed_put hnames hw⟩
      distinctNames := ⟨hdistinct, Entry.distinctNames_put hdistinct⟩ }

/-- **A scan finds the same files** when its project gains a test and stays where it is. -/
theorem GainsTest.scan_eq {rel : Place} (h : w.GainsTest w' found.projectRoot rel)
    (hscan : w.scan settings name = .ok found)
    (hroot : w'.findProjectRoot settings.manifestFiles (Path.ofString name) =
      w.findProjectRoot settings.manifestFiles (Path.ofString name)) :
    w'.scan settings name = .ok found := by
  obtain ⟨real, hreal, hexists, hfound⟩ := scan_eq_ok_iff.mp hscan
  obtain ⟨real', hreal', hproject, -⟩ := scan_ok hscan
  obtain rfl := Except.ok.inj (hreal'.symm.trans hreal)
  obtain ⟨e, he⟩ := exists?_eq_true_iff.mp hexists
  have habsolute := Path.isAbsolute_of_anchor (real_of_resolve hreal).1
  have hsame := h.resolve_eq hreal he
  have hproject' : w'.projectRootAbove settings.manifestFiles real' = .ok found.projectRoot := by
    rw [findProjectRoot, findProjectRoot, hreal, hsame] at hroot
    dsimp only at hroot
    rw [hproject] at hroot
    exact mapError_eq_ok_iff.mp hroot
  obtain ⟨e', he', -⟩ := h.entry_of_ok habsolute he
  refine scan_eq_ok_iff.mpr ⟨real', hsame, exists?_eq_true_iff.mpr ⟨e', he'⟩, ?_⟩
  rw [scanFrom, hproject] at hfound
  rw [← hfound, scanFrom, hproject']
  dsimp only
  rw [h.isFile_eq habsolute he, h.ignoreRules_eq]
  cases w.ignoreRules found.projectRoot settings.excludePaths with
  | error _ => rfl
  | ok rules =>
    dsimp only
    rw [h.walk_eq]

end scan

end Workspace

end Preflight
