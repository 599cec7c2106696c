import Mathlib.Data.List.Perm.Subperm
import Preflight.Proofs.FileTree.NewTest
import Preflight.Proofs.Run.WithoutGraph
import Preflight.Proofs.Scoring.Monotone
import Preflight.Proofs.Tests.Candidates

/-!
# Adding a test

When a project gains a test, a run finds the same files and the same import graph. Every file that
had tests has tests, so every list of importers without tests shrinks, no level gets higher and no
score gets lower. Nobody is punished for writing a test.

This needs that the test mends no link. A scan takes a link as the file it leads to, so a broken
link with the name of a source file is found once the test is there for it to lead to.

## Main definitions

* `Improves`: the result for a file, and one that is no worse.

## Main results

* `Workspace.GainsTest.verdict_improves`: every verdict has one that is no worse.
* `new_test_never_worsens`: a run, and one after a test was added.
* `new_test_mends_link`: a link that is mended.
-/

namespace Preflight

/-- The result for a file, and one that is no worse: a level that is no higher, a score that is no
lower, and no importer without tests that had tests. -/
structure Improves (x x' : FileResult) : Prop where
  level : x.risk.level.rank ≤ x'.risk.level.rank
  score : x.score.score ≤ x'.score.score
  untested : x'.risk.downstreamUntested ⊆ x.risk.downstreamUntested

namespace Workspace

variable {w w' : Workspace} {root file : Path} {rel : Place}

/-- A path of names that leads to a file. -/
structure IsSource (w : Workspace) (p : Path) : Prop where
  absolute : p.isAbsolute = true
  names : ∀ s ∈ p.segments, isFileName s = true
  isFile : w.isFile p = true

/-- The files of a scan are there. -/
theorem isSource_of_mem_scan_files (hw : w.WellNamed) {settings : ScanSettings} {name : String}
    {found : ScanTarget} (hscan : w.scan settings name = .ok found) (hfile : file ∈ found.files) :
    w.IsSource file := by
  obtain ⟨habsolute, hnames⟩ := names_of_mem_scan_files hw hscan hfile
  refine ⟨habsolute, hnames, ?_⟩
  obtain ⟨real, -, -, ⟨hreal, hfiles⟩ | ⟨rules, -, hfiles⟩⟩ := scan_ok hscan
  · rw [hfiles, List.mem_singleton] at hfile
    rwa [hfile]
  · rw [hfiles] at hfile
    obtain ⟨place, hplace, rfl⟩ := List.mem_map.mp hfile
    exact (mem_sourceFiles hplace).1

/-- What a file says about itself is the same whatever is known of its tests. -/
theorem readFacts_of_readText_eq {id : FileId} {coverage : TestCoverage} {facts : FileFacts}
    (htext : w'.readText file = w.readText file) (hreaders : w'.readers = w.readers)
    (h : (w.readFacts file id coverage : Logged FileFault FileFacts).result = .ok facts)
    (coverage' : TestCoverage) :
    (w'.readFacts file id coverage' : Logged FileFault FileFacts).result =
      .ok { facts with coverage := coverage' } := by
  rw [readFacts] at h ⊢
  rw [htext, hreaders]
  cases hread : w.readText file with
  | error e =>
    rw [hread] at h
    obtain rfl := Except.ok.inj h
    rfl
  | ok text =>
    rw [hread] at h
    dsimp only at h ⊢
    split at h
    · next hblank =>
      obtain rfl := Except.ok.inj h
      rw [if_pos hblank]
      rfl
    · next hblank =>
      obtain ⟨source, hsource⟩ := exists_factsOfSource (ε := FileFault) w.readers.parse file.name text
      rw [Logged.result_bind, hsource] at h
      obtain rfl := Except.ok.inj h
      rw [if_neg hblank, Logged.result_bind, hsource]
      rfl

namespace GainsTest

theorem discoverTests_improves (h : w.GainsTest w' root rel) (hfile : w.IsSource file)
    {coverage : TestCoverage} (hcoverage : w.discoverTests file root = .ok coverage) :
    ∃ coverage', w'.discoverTests file root = .ok coverage' ∧
      (coverage.hasTest = true → coverage'.hasTest = true) :=
  h.discoverTests_grow hfile.absolute (fun s hs => not_isDirection_of_isFileName (hfile.names s hs))
    hfile.isFile (Path.isAbsolute_of_anchor h.anchor) h.located hcoverage

/-- The facts of a file, but for its tests, are the same. -/
theorem gatherFacts_improves {target : ScanTarget} (h : w.GainsTest w' target.projectRoot rel)
    (hfile : w.IsSource file) {facts : FileFacts}
    (hfacts : (w.gatherFacts target file).result = .ok facts) :
    ∃ coverage', (w'.gatherFacts target file).result = .ok { facts with coverage := coverage' } ∧
      (facts.coverage.hasTest = true → coverage'.hasTest = true) := by
  obtain ⟨-, hcoverage⟩ := gatherFacts_ok hfacts
  obtain ⟨coverage', hcoverage', hgrow⟩ := h.discoverTests_improves hfile hcoverage
  refine ⟨coverage', ?_, hgrow⟩
  rw [gatherFacts, Logged.result_bind, Logged.result_ofExcept, hcoverage] at hfacts
  rw [gatherFacts, Logged.result_bind, Logged.result_ofExcept, hcoverage']
  exact readFacts_of_readText_eq (h.readText_eq hfile.absolute hfile.isFile) h.readers hfacts
    coverage'

/-- Among some importers, no more are without tests. -/
theorem withoutTest_sublist (h : w.GainsTest w' root rel) {importers : List FileId}
    (himporters : ∀ id ∈ importers, w.IsSource (root.join (Path.ofString id)))
    {untested : List FileId} (huntested : withoutTest w root [] importers = .ok untested) :
    ∃ untested', withoutTest w' root [] importers = .ok untested' ∧
      untested'.Sublist untested := by
  induction importers generalizing untested with
  | nil => exact ⟨untested, huntested, .refl untested⟩
  | cons importer rest ih =>
    obtain ⟨himporter, hrest⟩ := List.forall_mem_cons.mp himporters
    obtain ⟨tested, htested, hrestUntested⟩ := bind_eq_ok_iff.mp huntested
    obtain ⟨others, hothers, heq⟩ := bind_eq_ok_iff.mp hrestUntested
    obtain rfl := Except.ok.inj heq
    rw [importerHasTest_nil] at htested
    obtain ⟨coverage, hcoverage, rfl⟩ := map_eq_ok_iff.mp htested
    obtain ⟨coverage', hcoverage', hgrow⟩ := h.discoverTests_improves himporter hcoverage
    obtain ⟨others', hothers', hsublist⟩ := ih hrest hothers
    refine ⟨if coverage'.hasTest then others' else importer :: others', ?_, ?_⟩
    · rw [withoutTest, importerHasTest_nil, hcoverage', hothers']
      rfl
    · by_cases htests : coverage.hasTest = true
      · rw [if_pos htests, if_pos (hgrow htests)]
        exact hsublist
      · rw [if_neg htests]
        split
        · exact hsublist.cons importer
        · exact hsublist.cons_cons importer

/-- Of the importers of a file, no more are without tests. -/
theorem untestedImporters_subperm (h : w.GainsTest w' root rel) {importers : List FileId}
    (himporters : ∀ id ∈ importers, w.IsSource (root.join (Path.ofString id)))
    {untested : List FileId} (huntested : untestedImporters w root [] importers = .ok untested) :
    ∃ untested', untestedImporters w' root [] importers = .ok untested' ∧
      untested'.Subperm untested := by
  obtain ⟨ids, hids, rfl⟩ := map_eq_ok_iff.mp huntested
  obtain ⟨ids', hids', hsublist⟩ := h.withoutTest_sublist himporters hids
  refine ⟨_, map_eq_ok_iff.mpr ⟨ids', hids', rfl⟩, ?_⟩
  exact (sorted_perm ids').subperm.trans (hsublist.subperm.trans (sorted_perm ids).symm.subperm)

/-- **Every verdict has one that is no worse** once the project has gained the test. -/
theorem verdict_improves {target : ScanTarget} (h : w.GainsTest w' target.projectRoot rel)
    {g : Dependencies}
    (himporters : ∀ id, ∀ importer ∈ g.importers id,
      w.IsSource (target.projectRoot.join (Path.ofString importer)))
    (hfile : w.IsSource file) {x : FileResult} (hx : w.verdict target g file = .ok x) :
    ∃ x', w'.verdict target g file = .ok x' ∧ Improves x x' := by
  obtain ⟨facts, untested, hfacts, huntested, rfl⟩ := verdict_eq_ok_iff.mp hx
  obtain ⟨coverage', hfacts', hgrow⟩ := h.gatherFacts_improves hfile hfacts
  obtain ⟨untested', huntested', hsubperm⟩ :=
    h.untestedImporters_subperm (himporters facts.path) huntested
  refine ⟨_, verdict_eq_ok_iff.mpr ⟨_, untested', hfacts', huntested', rfl⟩, ?_⟩
  refine ⟨RiskEvidence.NoWorseThan.rank_le ?_, scoreFile_mono_coverage facts hgrow,
    hsubperm.subset⟩
  exact
    { circular := Nat.le_refl _
      inCycle := id
      incoming := Nat.le_refl _
      untested := hsubperm.length_le
      hasTest := hgrow
      mutations := Int.le_refl _
      missing := Int.le_refl _ }

/-- The files of an import graph, and so the importers of a file, are there. -/
theorem isSource_of_mem_importers (h : w.GainsTest w' root rel) {settings : GraphSettings}
    {sources : List (FileId × String)} (hsources : w.graphSources settings root = .ok sources)
    {id importer : FileId}
    (himporter : importer ∈ (ImportGraph.ofSources sources).dependencies.importers id) :
    w.IsSource (root.join (Path.ofString importer)) := by
  obtain ⟨place, hplace, hfile, hnames⟩ := exists_place_of_mem_graphSources h.wellNamed.1
    h.distinctNames.1 h.anchor h.directions hsources (mem_sources_of_mem_importers himporter)
  rw [hplace]
  exact ⟨rfl, hnames, hfile⟩

end GainsTest

end Workspace

/-! ### Runs -/

namespace Engine

variable {w w' : Workspace} {root : Path} {settings : ScanSettings}
  {graphSettings : GraphSettings} {g : Dependencies}

/-- The graph of a run depends on what comes of building it. -/
theorem graph_congr_result {e : Engine}
    (h : (e.builder w' root).result = (e.builder w root).result) :
    e.graph w' {} root = e.graph w {} root := by
  rw [graph, graph, GraphCache.getOrBuild_of_get?_eq_none rfl,
    GraphCache.getOrBuild_of_get?_eq_none rfl, GraphBuilder.orEmpty, GraphBuilder.orEmpty]
  cases hresult : (e.builder w root).result with
  | ok g => rw [Logged.result_recover_ok hresult, Logged.result_recover_ok (h.trans hresult)]
  | error failure =>
    rw [Logged.result_recover_error hresult, Logged.result_recover_error (h.trans hresult)]

theorem graph_of_ok {e : Engine} (h : (e.builder w root).result = .ok g) :
    e.graph w {} root = .ok g := by
  rw [graph, GraphCache.getOrBuild_of_get?_eq_none rfl, GraphBuilder.orEmpty,
    Logged.result_recover_ok h]

/-- With rules for what it ignores, the graph of a run is that of the files that a walk takes. -/
theorem exists_graph_eq_ofSources (settings : ScanSettings) (graphSettings : GraphSettings)
    {rules : List IgnoreRule}
    (hrules : w.ignoreRules root graphSettings.excludePaths = .ok rules) :
    ∃ sources, Engine.graph ⟨settings, Workspace.buildGraph graphSettings⟩ w {} root =
        .ok (ImportGraph.ofSources sources).dependencies ∧
      sources.map (·.1) =
        (w.sourceFiles ⟨rules, graphSettings.extensions, false⟩ root.segments root.segments).map
          fun place => (Workspace.pathOf place).seenFrom root := by
  obtain ⟨sources, hsources, hfiles⟩ := Workspace.map_fst_graphSources graphSettings hrules
  exact ⟨sources, graph_of_ok (Workspace.buildGraph_eq_ok_iff.mpr ⟨sources, hsources, rfl⟩), hfiles⟩

/-- The graph of a run is that of the files of its project, or the empty one. -/
theorem graph_buildGraph_cases
    (hg : Engine.graph ⟨settings, Workspace.buildGraph graphSettings⟩ w {} root = .ok g) :
    (∃ sources, w.graphSources graphSettings root = .ok sources ∧
      (ImportGraph.ofSources sources).dependencies = g) ∨ g = Dependencies.empty := by
  cases hresult : (Workspace.buildGraph graphSettings w root).result with
  | ok built =>
    obtain ⟨sources, hsources, rfl⟩ := Workspace.buildGraph_eq_ok_iff.mp hresult
    rw [graph_of_ok hresult] at hg
    exact Or.inl ⟨sources, hsources, Except.ok.inj hg⟩
  | error failure =>
    have hforeseen : failure.isForeseen = true := by
      rw [Workspace.result_buildGraph] at hresult
      cases hsources : w.graphSources graphSettings root with
      | ok sources =>
        rw [hsources] at hresult
        cases hresult
      | error e =>
        rw [hsources] at hresult
        obtain rfl := Except.error.inj hresult
        rfl
    rw [graph_of_foreseen hresult hforeseen] at hg
    exact Or.inr (Except.ok.inj hg).symm

end Engine

/-- **A new test makes nothing worse.** When a test is put where nothing was below the top of a
project, the project stays where it is, and the test mends no link, then a run that had a result has
one again. The scan finds the same files; no level is higher, no score and no mean score lower, and
no importer is without tests that had some; so no run fails that did not, whatever the policy and
the limit. -/
theorem new_test_never_worsens {settings : ScanSettings} {graphSettings : GraphSettings}
    {w : Workspace} (hw : w.WellNamed) (hdistinct : w.DistinctNames) {name policyName : String}
    {found : ScanTarget} (hscan : w.scan settings name = .ok found) {rel : Place}
    {content : List UInt8} (hrel : ∀ s ∈ rel, isFileName s = true)
    (htest : isTestFile ⟨.here, rel⟩ = true)
    (hnew : w.top.at? (found.projectRoot.segments ++ rel) = none)
    (hroot : (w.withFile (found.projectRoot.segments ++ rel) content).findProjectRoot
        settings.manifestFiles (Path.ofString name) =
      w.findProjectRoot settings.manifestFiles (Path.ofString name))
    (hlinks : w.top.MendsNoLink
      (w.withFile (found.projectRoot.segments ++ rel) content).top)
    {r : AnalysisResult}
    (hr : (Engine.run ⟨settings, Workspace.buildGraph graphSettings⟩ w {} name
      policyName).outcome.result = .ok r) :
    (w.withFile (found.projectRoot.segments ++ rel) content).scan settings name = .ok found ∧
      ∃ r', (Engine.run ⟨settings, Workspace.buildGraph graphSettings⟩
          (w.withFile (found.projectRoot.segments ++ rel) content) {} name
          policyName).outcome.result = .ok r' ∧
        r.Match Improves r' ∧ r.overall ≤ r'.overall ∧
        ∀ minScore, r.exitCode minScore = 0 → r'.exitCode minScore = 0 := by
  have hgains := Workspace.gainsTest_withFile hw hdistinct hscan hrel htest hnew hlinks
  have hscan' := hgains.scan_eq hscan hroot
  have hverdicts : ∀ g,
      Engine.graph ⟨settings, Workspace.buildGraph graphSettings⟩ w {} found.projectRoot = .ok g →
      ∃ g', Engine.graph ⟨settings, Workspace.buildGraph graphSettings⟩
          (w.withFile (found.projectRoot.segments ++ rel) content) {} found.projectRoot = .ok g' ∧
        ∀ file ∈ found.files, ∀ x, w.verdict found g file = .ok x →
          ∃ x', (w.withFile (found.projectRoot.segments ++ rel) content).verdict found g' file =
            .ok x' ∧ Improves x x' := by
    intro g hg
    refine ⟨g, ?_, fun file hfile x hx => ?_⟩
    · rw [Engine.graph_congr_result (hgains.result_buildGraph_eq graphSettings), hg]
    · refine hgains.verdict_improves (fun id importer himporter => ?_)
        (Workspace.isSource_of_mem_scan_files hw hscan hfile) hx
      obtain ⟨sources, hsources, rfl⟩ | rfl := Engine.graph_buildGraph_cases hg
      · exact hgains.isSource_of_mem_importers hsources himporter
      · rw [Dependencies.importers_empty] at himporter
        cases himporter
  obtain ⟨rs, rs', hmatched, rfl, hr'⟩ := Engine.exists_matched_run
    ⟨settings, Workspace.buildGraph graphSettings⟩ ⟨settings, Workspace.buildGraph graphSettings⟩
    hw hscan hscan' hverdicts hr
  have hmatch := hmatched.toMatch found.projectRoot (Policy.ofName policyName)
  have hoverall : repoScore (rs.map (·.score.score)) ≤ repoScore (rs'.map (·.score.score)) := by
    refine repoScore_mono ?_
    rw [List.forall₂_map_left_iff, List.forall₂_map_right_iff]
    exact hmatched.forall₂.imp fun _ _ hx => hx.score
  rw [← overall_summarize found.projectRoot (Policy.ofName policyName),
    ← overall_summarize found.projectRoot (Policy.ofName policyName)] at hoverall
  refine ⟨hscan', _, hr', hmatch, hoverall, fun minScore => ?_⟩
  refine hmatch.exitCode_eq_zero (fun _ _ hx => hx.level) ?_ hoverall
  rw [policy_summarize, policy_summarize]

/-! ### A project that gains a test, and one whose link is mended -/

/-- A project of one file. -/
def oneFile : Workspace :=
  { top := .directory [("p", .directory [("package.json", .file []), ("a.ts", .file [])])]
    current := []
    home := [] }

/-- The file as a scan finds it. -/
def oneFileFound : ScanTarget := ⟨⟨.top, ["p"]⟩, ⟨.top, ["p"]⟩, [⟨.top, ["p", "a.ts"]⟩]⟩

theorem wellNamed_oneFile : oneFile.WellNamed := by
  rw [Workspace.WellNamed]
  decide

theorem sourceFiles_oneFile {extensions : List String}
    (h : extensions = defaultExtensions ∨ extensions = graphExtensions) :
    oneFile.sourceFiles ⟨[], extensions, false⟩ ["p"] ["p"] = [["p", "a.ts"]] := by
  rw [Workspace.sourceFiles, ← List.mergeSort_singleton (r := comesNoLater) ["p", "a.ts"]]
  congr 1
  rcases h with rfl | rfl
  · decide +kernel
  · decide +kernel

theorem scan_oneFile : oneFile.scan {} "/p" = .ok oneFileFound := by
  calc oneFile.scan {} "/p" =
        .ok ⟨⟨.top, ["p"]⟩, ⟨.top, ["p"]⟩, (oneFile.sourceFiles ⟨[], defaultExtensions, false⟩
          ["p"] ["p"]).map Workspace.pathOf⟩ := rfl
    _ = .ok oneFileFound := by
        rw [sourceFiles_oneFile (Or.inl rfl)]
        rfl

/-- The only file has no importers, so a run has a result as soon as its facts are known. -/
theorem exists_run_oneFile (policyName : String)
    (hknown : (Policy.ofName policyName).isKnown = true) :
    ∃ r, (Engine.run ⟨{}, Workspace.buildGraph {}⟩ oneFile {} "/p" policyName).outcome.result =
      .ok r := by
  have hids := ScanTarget.leadsBack_of_scan wellNamed_oneFile scan_oneFile
  have hrules : oneFile.ignoreRules oneFileFound.projectRoot [] = .ok [] := rfl
  obtain ⟨sources, hgraph, hfiles⟩ := Engine.exists_graph_eq_ofSources {} {} hrules
  replace hfiles : sources.map (·.1) = ["a.ts"] := by
    rw [hfiles, show oneFileFound.projectRoot.segments = ["p"] from rfl,
      sourceFiles_oneFile (Or.inr rfl)]
    rfl
  obtain ⟨facts, hfacts⟩ : ∃ facts,
      (oneFile.gatherFacts oneFileFound ⟨.top, ["p", "a.ts"]⟩).result = .ok facts :=
    exists_eq_ok (by decide +kernel)
  have himporters : (ImportGraph.ofSources sources).dependencies.importers facts.path = [] := by
    have hpath : facts.path = "a.ts" := (Workspace.gatherFacts_ok hfacts).1
    refine List.eq_nil_iff_forall_not_mem.mpr fun importer himporter => ?_
    have hmem := mem_sources_of_mem_importers himporter
    rw [hfiles] at hmem
    rw [hpath, mem_importers_dependencies (by rw [hfiles]; exact List.mem_singleton_self _)]
      at himporter
    exact himporter.1 (List.mem_singleton.mp hmem)
  have hverdicts : ∀ file ∈ oneFileFound.files, ∃ x,
      oneFile.verdict oneFileFound (ImportGraph.ofSources sources).dependencies file = .ok x := by
    intro file hfile
    obtain rfl := List.mem_singleton.mp hfile
    refine ⟨_, Workspace.verdict_eq_ok_iff.mpr ⟨facts, [], hfacts, ?_, rfl⟩⟩
    rw [himporters, untestedImporters, withoutTest, Except.map, sorted, List.mergeSort_nil]
  obtain ⟨r, hr⟩ := (Engine.exists_analyze_eq_ok_iff hids).mpr ⟨_, hgraph, hverdicts⟩
  exact ⟨r, Engine.run_eq_ok_iff.mpr ⟨hknown, _, scan_oneFile, hr⟩⟩

/-- A project of one file gains a test of that file. -/
theorem new_test_never_worsens_oneFile :
    ∃ r r', (Engine.run ⟨{}, Workspace.buildGraph {}⟩ oneFile {} "/p" "risk").outcome.result =
        .ok r ∧
      (Engine.run ⟨{}, Workspace.buildGraph {}⟩ (oneFile.withFile ["p", "tests", "a.test.ts"] [])
        {} "/p" "risk").outcome.result = .ok r' ∧
      r.Match Improves r' ∧ r.overall ≤ r'.overall := by
  obtain ⟨r, hr⟩ := exists_run_oneFile "risk" (by decide)
  have hdistinct : oneFile.DistinctNames := by
    rw [Workspace.DistinctNames]
    decide
  have hroot : (oneFile.withFile ["p", "tests", "a.test.ts"] []).findProjectRoot defaultManifests
      (Path.ofString "/p") = .ok ⟨.top, ["p"]⟩ := rfl
  have hroot' : oneFile.findProjectRoot defaultManifests (Path.ofString "/p") =
      .ok ⟨.top, ["p"]⟩ := rfl
  have hnames : ∀ s ∈ ["tests", "a.test.ts"], isFileName s = true := by decide
  have hlinks : oneFile.top.MendsNoLink (oneFile.withFile ["p", "tests", "a.test.ts"] []).top :=
    Entry.mendsNoLink_of_linkCount rfl _
  obtain ⟨-, r', hr', hmatch, hoverall, -⟩ := new_test_never_worsens wellNamed_oneFile hdistinct
    scan_oneFile hnames (by decide) rfl (hroot.trans hroot'.symm) hlinks hr
  exact ⟨r, r', hr, hr', hmatch, hoverall⟩

/-- A project of a broken link. -/
def brokenLink : Workspace :=
  { top := .directory [("p", .directory [("package.json", .file []),
      ("a.ts", .link "tests/x.ts")])]
    current := []
    home := [] }

/-- The project when the file that the link leads to is there, a test. -/
def mendedLink : Workspace := brokenLink.withFile ["p", "tests", "x.ts"] []

/-- **A test that mends a link.** A scan that found nothing finds the link as a file once there is a
test for it to lead to, though the project stays where it is. -/
theorem new_test_mends_link :
    ∃ found found' r, brokenLink.WellNamed ∧ brokenLink.DistinctNames ∧
      brokenLink.scan {} "/p" = .ok found ∧ isTestFile ⟨.here, ["tests", "x.ts"]⟩ = true ∧
      brokenLink.top.at? (found.projectRoot.segments ++ ["tests", "x.ts"]) = none ∧
      mendedLink = brokenLink.withFile (found.projectRoot.segments ++ ["tests", "x.ts"]) [] ∧
      mendedLink.findProjectRoot defaultManifests (Path.ofString "/p") =
        brokenLink.findProjectRoot defaultManifests (Path.ofString "/p") ∧
      (Engine.run ⟨{}, Workspace.buildGraph {}⟩ brokenLink {} "/p" "risk").outcome.result = .ok r ∧
      mendedLink.scan {} "/p" = .ok found' ∧
      found.files.map found.fileId = [] ∧ found'.files.map found'.fileId = ["a.ts"] := by
  have hnamed : brokenLink.WellNamed := by
    rw [Workspace.WellNamed]
    decide
  have hdistinct : brokenLink.DistinctNames := by
    rw [Workspace.DistinctNames]
    decide
  have hwalk : brokenLink.sourceFiles ⟨[], defaultExtensions, false⟩ ["p"] ["p"] = [] := by
    rw [Workspace.sourceFiles, ← List.mergeSort_nil (r := comesNoLater)]
    congr 1
    decide +kernel
  have hwalk' : mendedLink.sourceFiles ⟨[], defaultExtensions, false⟩ ["p"] ["p"] =
      [["p", "a.ts"]] := by
    rw [Workspace.sourceFiles, ← List.mergeSort_singleton (r := comesNoLater) ["p", "a.ts"]]
    congr 1
    decide +kernel
  have hscan : brokenLink.scan {} "/p" = .ok ⟨⟨.top, ["p"]⟩, ⟨.top, ["p"]⟩,
      (brokenLink.sourceFiles ⟨[], defaultExtensions, false⟩ ["p"] ["p"]).map Workspace.pathOf⟩ :=
    rfl
  have hscan' : mendedLink.scan {} "/p" = .ok ⟨⟨.top, ["p"]⟩, ⟨.top, ["p"]⟩,
      (mendedLink.sourceFiles ⟨[], defaultExtensions, false⟩ ["p"] ["p"]).map Workspace.pathOf⟩ :=
    rfl
  rw [hwalk] at hscan
  rw [hwalk'] at hscan'
  have hroot : brokenLink.findProjectRoot defaultManifests (Path.ofString "/p") =
      .ok ⟨.top, ["p"]⟩ := rfl
  have hroot' : mendedLink.findProjectRoot defaultManifests (Path.ofString "/p") =
      .ok ⟨.top, ["p"]⟩ := rfl
  have hids := ScanTarget.leadsBack_of_scan hnamed hscan
  have hrules : brokenLink.ignoreRules ⟨.top, ["p"]⟩ [] = .ok [] := rfl
  obtain ⟨sources, hgraph, -⟩ := Engine.exists_graph_eq_ofSources {} {} hrules
  obtain ⟨r, hr⟩ := (Engine.exists_analyze_eq_ok_iff hids).mpr
    ⟨_, hgraph, fun file hfile => absurd hfile List.not_mem_nil⟩
  exact ⟨_, _, r, hnamed, hdistinct, hscan, by decide, rfl, rfl, hroot'.trans hroot.symm,
    Engine.run_eq_ok_iff.mpr ⟨by decide, _, hscan, hr⟩, hscan', rfl, rfl⟩

end Preflight
