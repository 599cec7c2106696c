import Preflight.Proofs.Graph.Cycles
import Preflight.Proofs.Graph.Sources
import Preflight.Proofs.Tests.Search

/-!
# A test is no source

The names under which tests are looked for and the test for what is a test are written down
separately, and they agree: wherever a test of a file with a suffix is looked for, what stands there
is a test. The walk of a scan of a directory and that of an import graph leave tests out, so the
test that a file is credited with is not scanned and does not count in the graph.

## Main definitions

* `IsTestBelow`: a path is that of a test, as seen from a directory above it.
* `FileId.isTest`: an id is that of a test.
* `Dependencies.Lacks`: an id has no place in the dependencies between files.

## Main results

* `isTestBelow_of_mem_testCandidates`: tests are looked for where there are tests.
* `Workspace.isTest_of_mem_sourceFiles`: a walk leaves tests out.
* `tests_are_no_sources`: what is found is neither scanned nor in the graph.
-/

namespace Preflight

/-- An id is that of a test. -/
def FileId.isTest (id : FileId) : Bool := isTestFile (Path.ofString id)

/-! ### Names of tests -/

/-- A suffix starts with a dot. -/
theorem Path.exists_suffixOf_eq {name : String} (h : suffixOf name ≠ "") :
    ∃ tail, (suffixOf name).toList = '.' :: tail := by
  rw [suffixOf] at h ⊢
  split at h
  · next hcond =>
    rw [if_pos hcond, String.toList_ofList]
    exact ⟨_, rfl⟩
  · exact absurd rfl h

/-- A mark makes the name of a test where a suffix follows. -/
theorem hasTestMark_marked {mark ext : String} (hmark : mark = ".test" ∨ mark = ".spec")
    (hext : ∃ tail, ext.toList = '.' :: tail) (base : String) :
    hasTestMark (base ++ mark ++ ext) = true := by
  obtain ⟨tail, htail⟩ := hext
  have hmem : mark ++ "." ∈ testMarks := by
    rcases hmark with rfl | rfl
    · decide
    · decide
  refine List.any_eq_true.mpr ⟨_, hmem, Text.occursIn_iff.mpr ⟨base.toList, tail, ?_⟩⟩
  rw [String.toList_append, String.toList_append, String.toList_append, htail]
  simp

theorem ne_empty_of_hasTestMark {name : String} (h : hasTestMark name = true) : name ≠ "" := by
  rintro rfl
  exact absurd h (by decide)

theorem isTestFile_child_of_hasTestMark {name : String} (h : hasTestMark name = true) (p : Path) :
    isTestFile (p.child name) = true := by
  rw [isTestFile, Path.name_child (ne_empty_of_hasTestMark h), h]
  rfl

theorem isTestFile_child_of_testSibling {name : String} (h : name ≠ "") (p : Path) :
    isTestFile ((p.child testSibling).child name) = true := by
  have hsibling : ((p.child testSibling).child name).segments.dropLast.contains testSibling =
      true := by
    rw [Path.child_of_ne h, List.dropLast_concat, Path.child_of_ne (by decide),
      List.contains_iff_mem]
    exact List.mem_append_right _ (List.mem_singleton_self _)
  rw [isTestFile, hsibling, Bool.or_true, Bool.true_or]

/-! ### Where tests are looked for -/

namespace Path

variable {p q r : Path}

theorem join_join (hq : q.anchor = .here) (hr : r.anchor = .here) :
    (p.join q).join r = p.join (q.join r) := by
  obtain ⟨_, qs⟩ := q
  obtain ⟨_, rs⟩ := r
  subst hq hr
  simp [join, isAbsolute]

theorem parent_join (hq : q.anchor = .here) (hne : q.segments ≠ []) :
    (p.join q).parent = p.join q.parent := by
  obtain ⟨_, qs⟩ := q
  subst hq
  simp [join, isAbsolute, parent, List.dropLast_append_of_ne_nil hne]

theorem anchor_child (p : Path) (name : String) : (p.child name).anchor = p.anchor := by
  rw [child]
  split
  · rfl
  · rfl

theorem anchor_join (hq : q.anchor = .here) : (p.join q).anchor = p.anchor := by
  obtain ⟨_, qs⟩ := q
  subst hq
  rfl

/-- A child of a directory is one of the top of the project and of what leads from there to the
directory. -/
theorem child_eq_join (p : Path) (name : String) :
    p.child name = p.join (child ⟨.here, []⟩ name) := by
  rw [join_child rfl, join_nil]

end Path

section candidates

variable {p source root inside : Path}

theorem name_ne_empty_of_suffix (h : source.suffix ≠ "") : source.name ≠ "" := by
  intro hname
  rw [Path.suffix, hname] at h
  exact h (by decide)

/-- A path below a directory that is a test as seen from there. -/
def IsTestBelow (root p : Path) : Prop :=
  ∃ seen : Path, seen.anchor = .here ∧ isTestFile seen = true ∧ p = root.join seen

theorem isTestBelow_child {directory : Path} (hdirectory : directory.anchor = .here) {name : String}
    (h : isTestFile (directory.child name) = true) :
    IsTestBelow root ((root.join directory).child name) :=
  ⟨directory.child name, (Path.anchor_child _ _).trans hdirectory, h,
    (Path.join_child hdirectory _ _).symm⟩

theorem isTestBelow_of_mem_candidatesBeside (hinside : inside.anchor = .here)
    (hne : inside.segments ≠ []) (hsource : source = root.join inside)
    (hsuffix : source.suffix ≠ "") (hp : p ∈ candidatesBeside source) : IsTestBelow root p := by
  have hparent : source.parent = root.join inside.parent := by
    rw [hsource, Path.parent_join hinside hne]
  have hhere : inside.parent.anchor = .here := hinside
  have hdot := Path.exists_suffixOf_eq hsuffix
  have hmarked : ∀ {mark ext : String}, mark = ".test" ∨ mark = ".spec" →
      (ext = source.suffix ∨ ext = ".ts" ∨ ext = ".js") →
      hasTestMark (source.stem ++ mark ++ ext) = true := by
    intro mark ext hmark hext
    refine hasTestMark_marked hmark ?_ _
    rcases hext with rfl | rfl | rfl
    · exact hdot
    · exact ⟨['t', 's'], rfl⟩
    · exact ⟨['j', 's'], rfl⟩
  rcases exists_of_mem_candidatesBeside hp with ⟨mark, ext, hmark, hext, heq⟩ | ⟨name, hform, heq⟩
  · rw [heq, hparent]
    exact isTestBelow_child hhere (isTestFile_child_of_hasTestMark (hmarked hmark hext) _)
  · have hname : name ≠ "" := by
      rcases hform with hsame | ⟨mark, hmark, hmarkedName⟩
      · exact hsame ▸ name_ne_empty_of_suffix hsuffix
      · exact hmarkedName ▸ ne_empty_of_hasTestMark (hmarked hmark (Or.inl rfl))
    rw [heq, hparent, ← Path.join_child hhere]
    exact isTestBelow_child ((Path.anchor_child _ _).trans hhere)
      (isTestFile_child_of_testSibling hname _)

theorem isTestBelow_of_mem_candidatesBelow {top : String} {directory : Option Path} {name : String}
    (hname : hasTestMark name = true)
    (hp : p ∈ candidatesBelow (root.child top) directory name) : IsTestBelow root p := by
  obtain ⟨below, heq, -⟩ := exists_of_mem_candidatesBelow hp
  have hhere : (Path.child ⟨.here, []⟩ top).anchor = .here := Path.anchor_child _ _
  rw [heq, Path.child_eq_join root top, Path.join_join hhere rfl]
  exact isTestBelow_child ((Path.anchor_join rfl).trans hhere)
    (isTestFile_child_of_hasTestMark hname _)

/-- **Tests are looked for where there are tests.** Wherever the test of a file with a suffix is
looked for, what stands there is a test as seen from the project. -/
theorem isTestBelow_of_mem_testCandidates (hinside : source.relativeTo? root = some inside)
    (hne : inside.segments ≠ []) (hsuffix : source.suffix ≠ "")
    (hp : p ∈ testCandidates source root) : IsTestBelow root p := by
  obtain ⟨hsource, hhere, -⟩ := Path.eq_join_of_relativeTo?_eq_some hinside
  rw [testCandidates, mem_distinct, List.mem_filter, List.mem_append] at hp
  obtain ⟨hp | hp, -⟩ := hp
  · exact isTestBelow_of_mem_candidatesBeside hhere hne hsource hsuffix hp
  · obtain ⟨top, -, hp⟩ := List.mem_flatMap.mp hp
    exact isTestBelow_of_mem_candidatesBelow
      (hasTestMark_marked (Or.inl rfl) (Path.exists_suffixOf_eq hsuffix) _) hp

theorem slash_notMem_append {s t : String} :
    '/' ∉ (s ++ t).toList ↔ '/' ∉ s.toList ∧ '/' ∉ t.toList := by
  rw [String.toList_append, List.mem_append, not_or]

/-- Where tests are looked for can be told apart in a text, if the path of the file can. -/
theorem readable_of_mem_testCandidates (hsource : Path.Readable source.segments)
    (hroot : Path.Readable root.segments) (hne : source.segments ≠ [])
    (hp : p ∈ testCandidates source root) : Path.Readable p.segments := by
  obtain ⟨hsegment, hslash⟩ := hsource _ (Path.name_mem hne)
  rw [← Path.stem_append_suffix, slash_notMem_append] at hslash
  have hmarked : ∀ {mark ext : String}, mark = ".test" ∨ mark = ".spec" →
      (ext = source.suffix ∨ ext = ".ts" ∨ ext = ".js") →
      Path.isSegment (source.stem ++ mark ++ ext) = true ∧
        '/' ∉ (source.stem ++ mark ++ ext).toList := by
    intro mark ext hmark hext
    have hdirection := not_isDirection_marked hmark source.stem ext
    rw [isDirection, not_or, not_or] at hdirection
    refine ⟨by simp [Path.isSegment, hdirection.1, hdirection.2.1], ?_⟩
    rw [slash_notMem_append, slash_notMem_append]
    refine ⟨⟨hslash.1, ?_⟩, ?_⟩
    · rcases hmark with rfl | rfl
      · decide
      · decide
    · rcases hext with rfl | rfl | rfl
      · exact hslash.2
      · decide
      · decide
  have hsibling : Path.isSegment testSibling = true ∧ '/' ∉ testSibling.toList := by decide
  have hempty : ∀ s ∈ (Path.mk .here []).segments, Path.isSegment s = true ∧ '/' ∉ s.toList := by
    simp
  refine forall_segments_of_mem_testCandidates hsource hroot (by decide) (fun q hq => ?_) hp
  rcases exists_of_mem_candidatesBeside hq with ⟨mark, ext, hmark, hext, heq⟩ | ⟨name, hform, heq⟩
  · rw [heq]
    exact forall_segments_child hempty (hmarked hmark hext)
  · rw [heq]
    refine forall_segments_child (forall_segments_child hempty hsibling) ?_
    rcases hform with hsame | ⟨mark, hmark, hmarkedName⟩
    · exact hsame ▸ hsource _ (Path.name_mem hne)
    · exact hmarkedName ▸ hmarked hmark (Or.inl rfl)

end candidates

/-! ### What is taken -/

/-- The path of a file from the top of the project is read back from its id. -/
theorem Path.ofString_seenFrom {p root seen : Path} (h : p.relativeTo? root = some seen)
    (hp : Readable p.segments) : ofString (p.seenFrom root) = seen := by
  obtain ⟨-, -, hsegments⟩ := eq_join_of_relativeTo?_eq_some h
  rw [seenFrom, h, Option.getD_some]
  refine ofString_text_of_readable seen fun s hs => hp s ?_
  rw [hsegments]
  exact List.mem_append_right _ hs

namespace Workspace

variable {w : Workspace}

/-- **A walk leaves tests out**, whatever it looks for. -/
theorem isTest_of_mem_sourceFiles (hw : w.WellNamed) {rules : List IgnoreRule}
    {extensions : List String} {root : Path} (htop : root.anchor = .top) {down place : Place}
    (hdown : ∀ s ∈ root.segments ++ down, ¬isDirection s)
    (h : place ∈ w.sourceFiles ⟨rules, extensions, false⟩ root.segments (root.segments ++ down)) :
    FileId.isTest ((pathOf place).seenFrom root) = false := by
  have hnames := names_of_mem_sourceFiles hw hdown h
  have htakes := takes_of_mem_sourceFiles h
  obtain ⟨below, -, rfl, -⟩ := below_of_mem_sourceFiles hw h
  rw [List.append_assoc] at hnames htakes ⊢
  have hseen : (pathOf (root.segments ++ (down ++ below))).relativeTo? root =
      some ⟨.here, down ++ below⟩ := by
    rw [Path.relativeTo?, pathOf, if_pos htop.symm, Path.dropSegments?_append]
    rfl
  rw [placeBelow, List.drop_left, Selection.takes, Bool.and_eq_true, Bool.false_or,
    Bool.not_eq_true'] at htakes
  rw [FileId.isTest, Path.ofString_seenFrom hseen (Path.readable_of_isFileName hnames)]
  exact htakes.2

/-- The files of a scan of a directory are no tests. -/
theorem isTest_of_mem_scan_files (hw : w.WellNamed) {settings : ScanSettings} {target : String}
    {found : ScanTarget} (h : w.scan settings target = .ok found)
    (hdirectory : w.scansDirectory target = true) {id : FileId}
    (hid : id ∈ found.files.map found.fileId) : FileId.isTest id = false := by
  obtain ⟨real, hreal, -, hfiles⟩ := scan_ok h
  obtain ⟨real', hreal', -, htop, -, down, hdown⟩ := scan_project h
  obtain rfl := Except.ok.inj (hreal.symm.trans hreal')
  obtain ⟨-, hdirections⟩ := real_of_resolve hreal
  rw [scansDirectory, hreal, Bool.not_eq_true'] at hdirectory
  obtain ⟨hfile, -⟩ | ⟨rules, -, hfiles⟩ := hfiles
  · rw [hdirectory] at hfile
    cases hfile
  · rw [hfiles, List.map_map, List.mem_map, ← hdown] at hid
    obtain ⟨place, hplace, rfl⟩ := hid
    exact isTest_of_mem_sourceFiles hw htop (hdown ▸ hdirections) hplace

/-- The files of an import graph are no tests. -/
theorem isTest_of_mem_graphSources (hw : w.WellNamed) {settings : GraphSettings} {root : Path}
    (htop : root.anchor = .top) (hdirections : ∀ s ∈ root.segments, ¬isDirection s)
    {sources : List (FileId × String)} (hsources : w.graphSources settings root = .ok sources)
    {id : FileId} (hid : id ∈ sources.map (·.1)) : FileId.isTest id = false := by
  obtain ⟨rules, -, place, hplace, rfl⟩ := exists_seenFrom_of_mem_graphSources hsources hid
  rw [← List.append_nil root.segments] at hdirections hplace
  exact isTest_of_mem_sourceFiles hw htop hdirections (by simpa using hplace)

/-- The test that a file with a suffix is credited with has the id of a test. -/
theorem isTest_of_discoverTests {source root inside : Path}
    (hinside : source.relativeTo? root = some inside) (hne : inside.segments ≠ [])
    (hsuffix : source.suffix ≠ "") (hreadable : Path.Readable source.segments)
    {coverage : TestCoverage} (hcoverage : w.discoverTests source root = .ok coverage) {id : FileId}
    (hid : coverage.testFile = some id) : FileId.isTest id = true := by
  obtain ⟨-, -, hsegments⟩ := Path.eq_join_of_relativeTo?_eq_some hinside
  obtain ⟨o, ho, rfl⟩ := discoverTests_eq_ok_iff.mp hcoverage
  cases o with
  | none => cases hid
  | some p =>
    obtain rfl := Option.some.inj hid
    have hp := mem_of_firstFile? ho
    obtain ⟨seen, hhere, htest, heq⟩ := isTestBelow_of_mem_testCandidates hinside hne hsuffix hp
    have hseen : p.relativeTo? root = some seen := heq ▸ Path.relativeTo?_join root seen hhere
    have hroot : Path.Readable root.segments := fun s hs =>
      hreadable s (hsegments ▸ List.mem_append_left _ hs)
    have hne' : source.segments ≠ [] := by
      rw [hsegments]
      exact List.append_ne_nil_of_right_ne_nil _ hne
    rw [FileId.isTest, Path.ofString_seenFrom hseen
      (readable_of_mem_testCandidates hreadable hroot hne' hp)]
    exact htest

end Workspace

/-- An id has no place in the dependencies between files. -/
structure Dependencies.Lacks (g : Dependencies) (id : FileId) : Prop where
  node : id ∉ g.nodes
  importer : ∀ other, id ∉ g.importers other
  cycle : ∀ c ∈ g.cycles, id ∉ c
  cycleMember : ∀ other, id ∉ g.cycleMembers other

/-- What is no file of an import graph has no place in it. -/
theorem Dependencies.lacks_of_notMem {sources : List (FileId × String)} {id : FileId}
    (h : id ∉ sources.map (·.1)) : (ImportGraph.ofSources sources).dependencies.Lacks id := by
  have hcycle : ∀ c ∈ (ImportGraph.ofSources sources).cycles, id ∉ c := by
    intro c hc hid
    have hback := ImportGraph.exists_cycle_iff.mp ⟨c, hc, hid⟩
    obtain ⟨next, hnext, -⟩ := Relation.TransGen.head'_iff.mp hback
    exact h hnext.left_mem
  refine ⟨fun hnode => ?_, fun other hother => ?_, hcycle, fun other hmember => ?_⟩
  · exact h (ImportGraph.mem_nodes_ofSources.mp hnode)
  · exact h (mem_sources_of_mem_importers hother)
  · rw [ImportGraph.dependencies, mem_cycleMembers_of_iff] at hmember
    obtain ⟨-, _, -, c, hc, -, hid⟩ := hmember
    exact hcycle c hc hid

/-- **A test is no source.** Take a file with a suffix, anywhere below the top of a project. No
place is looked at twice for its tests, the file itself is not looked at, and wherever its tests are
looked for there is a test as seen from the project. So in every scan of a directory of the project
the test that the file is credited with is not among the scanned files, and in every import graph of
the project it is no file, no importer and no member of a cycle. -/
theorem tests_are_no_sources {source root inside : Path}
    (hinside : source.relativeTo? root = some inside) (hne : inside.segments ≠ [])
    (hsuffix : source.suffix ≠ "") :
    (testCandidates source root).Nodup ∧ source ∉ testCandidates source root ∧
    (∀ p ∈ testCandidates source root, ∃ seen, p.relativeTo? root = some seen ∧
      isTestFile seen = true) ∧
    ∀ (w : Workspace) (settings : ScanSettings) (target : String) (found : ScanTarget),
      w.WellNamed → w.scan settings target = .ok found → w.scansDirectory target = true →
      found.projectRoot = root → Path.Readable source.segments →
      ∀ coverage id, w.discoverTests source root = .ok coverage → coverage.testFile = some id →
        id ∉ found.files.map found.fileId ∧
        ∀ graphSettings g, (Workspace.buildGraph graphSettings w root).result = .ok g →
          g.Lacks id := by
  have htests : ∀ p ∈ testCandidates source root, ∃ seen, p.relativeTo? root = some seen ∧
      isTestFile seen = true := by
    intro p hp
    obtain ⟨seen, hhere, htest, rfl⟩ := isTestBelow_of_mem_testCandidates hinside hne hsuffix hp
    exact ⟨seen, Path.relativeTo?_join root seen hhere, htest⟩
  refine ⟨nodup_distinct _, fun hsource => ?_, htests, ?_⟩
  · rw [testCandidates, mem_distinct, List.mem_filter] at hsource
    exact absurd rfl (of_decide_eq_true hsource.2)
  · rintro w settings target found hw hscan hdirectory rfl hreadable coverage id hcoverage hid
    obtain ⟨-, -, -, htop, hdirections, -⟩ := Workspace.scan_project hscan
    have htest : FileId.isTest id = true :=
      Workspace.isTest_of_discoverTests hinside hne hsuffix hreadable hcoverage hid
    refine ⟨fun hscanned => ?_, fun graphSettings g hg => ?_⟩
    · rw [Workspace.isTest_of_mem_scan_files hw hscan hdirectory hscanned] at htest
      cases htest
    · obtain ⟨sources, hsources, rfl⟩ := Workspace.buildGraph_eq_ok_iff.mp hg
      refine Dependencies.lacks_of_notMem fun hmem => ?_
      rw [Workspace.isTest_of_mem_graphSources hw htop hdirections hsources hmem] at htest
      cases htest

/-- A project with a file and two tests of it. -/
def testedProject : Workspace :=
  { top := .directory [("p", .directory [("package.json", .file []), ("a.ts", .file []),
      ("a.spec.js", .file []), ("__tests__", .directory [("a.ts", .file [])])])]
    current := []
    home := [] }

/-- The test in the directory for tests is looked for first. -/
theorem tests_are_no_sources_testedProject :
    ∃ found coverage g, testedProject.scan {} "/p" = .ok found ∧
      testedProject.discoverTests ⟨.top, ["p", "a.ts"]⟩ found.projectRoot = .ok coverage ∧
      coverage.testFile = some "__tests__/a.ts" ∧
      "__tests__/a.ts" ∉ found.files.map found.fileId ∧
      (Workspace.buildGraph {} testedProject found.projectRoot).result = .ok g ∧
      g.Lacks "__tests__/a.ts" := by
  have hscan : testedProject.scan {} "/p" = .ok ⟨⟨.top, ["p"]⟩, ⟨.top, ["p"]⟩,
      (testedProject.sourceFiles ⟨[], defaultExtensions, false⟩ ["p"] ["p"]).map
        Workspace.pathOf⟩ := rfl
  have hnamed : testedProject.WellNamed := by
    rw [Workspace.WellNamed]
    decide
  have hcoverage : testedProject.discoverTests ⟨.top, ["p", "a.ts"]⟩ ⟨.top, ["p"]⟩ =
      .ok ⟨true, 0, some "__tests__/a.ts"⟩ := by
    decide +kernel
  obtain ⟨-, -, -, hscans⟩ := @tests_are_no_sources ⟨.top, ["p", "a.ts"]⟩ ⟨.top, ["p"]⟩
    ⟨.here, ["a.ts"]⟩ rfl (by decide) (by decide +kernel)
  obtain ⟨hscanned, hgraphs⟩ := hscans testedProject {} "/p" _ hnamed hscan rfl rfl
    (Path.readable_of_isFileName (by decide)) _ _ hcoverage rfl
  have hrules : testedProject.ignoreRules ⟨.top, ["p"]⟩ [] = .ok [] := rfl
  obtain ⟨sources, hsources, -⟩ := Workspace.map_fst_graphSources {} hrules
  have hgraph := Workspace.buildGraph_eq_ok_iff.mpr ⟨sources, hsources, rfl⟩
  exact ⟨_, _, _, hscan, hcoverage, rfl, hscanned, hgraph, hgraphs _ _ hgraph⟩

end Preflight
