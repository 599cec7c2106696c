import Preflight.Proofs.FileTree.Names
import Preflight.Proofs.Log.Results
import Preflight.Run.Engine

/-!
# The verdict on a file

A run finds its results in two passes over the files of a scan, and the second pass looks at the
facts of all of them. What it finds there is what the file tree says as well. So the result for
a file can be had from the project, the import graph and the file alone, and a run has a result
when there is one for every file.

## Main definitions

* `ScanTarget.LeadsBack`: the id of every file leads from the project to the file.
* `Workspace.verdict`: the result for a file, found without the other files of a scan.

## Main results

* `Workspace.importerHasTest_snapshot`: facts gathered before say what the file tree says.
* `Workspace.results_eq_ok_iff`: the results for a scan are the verdicts on its files.
* `Engine.analyze_eq_ok_iff`, `Engine.run_eq_ok_iff`: when a run has a result, and which.
-/

namespace Preflight

/-! ### The ids of a target -/

namespace ScanTarget

variable {t₁ t₂ : ScanTarget}

/-- The id of every file of a target leads from the project to the file. -/
def LeadsBack (target : ScanTarget) : Prop :=
  ∀ file ∈ target.files, target.projectRoot.join (Path.ofString (target.fileId file)) = file

theorem leadsBack_of_scan {w : Workspace} (hw : w.WellNamed) {settings : ScanSettings}
    {name : String} {found : ScanTarget} (h : w.scan settings name = .ok found) :
    found.LeadsBack := by
  intro file hfile
  exact join_fileId hw h hfile

theorem fileId_congr (h : t₁.projectRoot = t₂.projectRoot) : t₁.fileId = t₂.fileId := by
  funext file
  rw [fileId, fileId, h]

theorem LeadsBack.of_perm (hids : t₂.LeadsBack) (hroot : t₁.projectRoot = t₂.projectRoot)
    (hfiles : t₁.files.Perm t₂.files) : t₁.LeadsBack := by
  intro file hfile
  rw [fileId_congr hroot, hroot]
  exact hids file (hfiles.mem_iff.mp hfile)

end ScanTarget

/-! ### The facts of a file -/

theorem exists_factsOfSource {ε : Type} (parse : Source.Parser) (name text : String) :
    ∃ s, (factsOfSource parse name text : Logged ε Source.SourceFacts).result = .ok s := by
  rw [factsOfSource]
  split
  · exact ⟨_, rfl⟩
  · split
    · exact ⟨_, rfl⟩
    · exact ⟨_, rfl⟩

namespace Workspace

variable {w : Workspace}

/-- The facts of a file can always be had. They hold its id and what is known of its tests. -/
theorem exists_readFacts {ε : Type} (w : Workspace) (file : Path) (id : FileId)
    (coverage : TestCoverage) :
    ∃ facts, (w.readFacts file id coverage : Logged ε FileFacts).result = .ok facts ∧
      facts.path = id ∧ facts.coverage = coverage := by
  rw [readFacts]
  split
  · exact ⟨_, rfl, rfl, rfl⟩
  · next text _ =>
    split
    · exact ⟨_, rfl, rfl, rfl⟩
    · obtain ⟨s, hs⟩ := exists_factsOfSource (ε := ε) w.readers.parse file.name text
      refine ⟨{ path := id, source := s, coverage }, ?_, rfl, rfl⟩
      rw [Logged.result_bind, hs]
      rfl

theorem gatherFacts_ok {target : ScanTarget} {file : Path} {facts : FileFacts}
    (h : (w.gatherFacts target file).result = .ok facts) :
    facts.path = target.fileId file ∧
      w.discoverTests file target.projectRoot = .ok facts.coverage := by
  rw [gatherFacts, Logged.result_bind, Logged.result_ofExcept, bind_eq_ok_iff] at h
  obtain ⟨coverage, hcoverage, hread⟩ := h
  obtain ⟨facts', hfacts', hpath, hcov⟩ :=
    exists_readFacts (ε := FileFault) w file (target.fileId file) coverage
  rw [hfacts'] at hread
  obtain rfl := Except.ok.inj hread
  exact ⟨hpath, by rw [hcov, hcoverage]⟩

theorem gatherFacts_congr {t₁ t₂ : ScanTarget} (h : t₁.projectRoot = t₂.projectRoot) :
    w.gatherFacts t₁ = w.gatherFacts t₂ := by
  funext file
  rw [gatherFacts, gatherFacts, ScanTarget.fileId_congr h, h]

end Workspace

/-! ### The importers of a file -/

theorem factsOf?_eq_some {snapshot : List FileFacts} {id : FileId} {facts : FileFacts}
    (h : factsOf? snapshot id = some facts) : facts ∈ snapshot ∧ facts.path = id := by
  rw [factsOf?] at h
  exact ⟨List.mem_reverse.mp (List.mem_of_find?_eq_some h), by simpa using List.find?_some h⟩

namespace Workspace

variable {w : Workspace} {target : ScanTarget} {snapshot : List FileFacts}

/-- **Facts gathered before say what the file tree says.** Whether an importer has tests can be
read off the facts of a scan, or looked up where the importer is. -/
theorem importerHasTest_snapshot (hids : target.LeadsBack)
    (hsnapshot : (Logged.each (w.gatherFacts target) target.files).result = .ok snapshot)
    (importer : FileId) :
    importerHasTest w target.projectRoot snapshot importer =
      (w.discoverTests (target.projectRoot.join (Path.ofString importer))
        target.projectRoot).map (·.hasTest) := by
  rw [importerHasTest]
  cases hfacts : factsOf? snapshot importer with
  | none => rfl
  | some facts =>
    obtain ⟨hmem, rfl⟩ := factsOf?_eq_some hfacts
    obtain ⟨file, hfile, hgather⟩ : ∃ file ∈ target.files,
        (w.gatherFacts target file).result = .ok facts :=
      exists_mem_of_forall₂ (Logged.result_each_eq_ok_iff.mp hsnapshot) hmem
    obtain ⟨hpath, hcoverage⟩ := gatherFacts_ok hgather
    rw [hpath, hids file hfile, hcoverage]
    rfl

theorem importerHasTest_nil (root : Path) (importer : FileId) :
    importerHasTest w root [] importer =
      (w.discoverTests (root.join (Path.ofString importer)) root).map (·.hasTest) := rfl

theorem withoutTest_congr {root : Path} {s₁ s₂ : List FileFacts}
    (h : ∀ importer, importerHasTest w root s₁ importer = importerHasTest w root s₂ importer)
    (importers : List FileId) :
    withoutTest w root s₁ importers = withoutTest w root s₂ importers := by
  induction importers with
  | nil => rfl
  | cons importer rest ih => rw [withoutTest, withoutTest, h importer, ih]

/-- A second pass over the facts of a scan finds what it finds without them. -/
theorem fileResult_snapshot (hids : target.LeadsBack)
    (hsnapshot : (Logged.each (w.gatherFacts target) target.files).result = .ok snapshot)
    (g : Dependencies) :
    w.fileResult target.projectRoot g snapshot = w.fileResult target.projectRoot g [] := by
  have hsame : ∀ importer, importerHasTest w target.projectRoot snapshot importer =
      importerHasTest w target.projectRoot [] importer := by
    intro importer
    rw [importerHasTest_snapshot hids hsnapshot, importerHasTest_nil]
  funext facts
  rw [fileResult, fileResult, finalProfile, finalProfile, untestedImporters, untestedImporters,
    withoutTest_congr hsame]

/-! ### The verdict on a file -/

/-- The result for a file, found without the other files of a scan. -/
def verdict (w : Workspace) (target : ScanTarget) (g : Dependencies) (file : Path) :
    Except FileFault FileResult :=
  (w.gatherFacts target file).result >>= w.fileResult target.projectRoot g []

theorem verdict_congr {t₁ t₂ : ScanTarget} (h : t₁.projectRoot = t₂.projectRoot) :
    w.verdict t₁ = w.verdict t₂ := by
  funext g file
  rw [verdict, verdict, gatherFacts_congr h, h]

/-- The result for a file holds its facts, their score, and a profile of its place in the import
graph with the importers that have no tests. -/
theorem verdict_eq_ok_iff {g : Dependencies} {file : Path} {r : FileResult} :
    w.verdict target g file = .ok r ↔
      ∃ facts untested, (w.gatherFacts target file).result = .ok facts ∧
        untestedImporters w target.projectRoot [] (g.importers facts.path) = .ok untested ∧
        r = ⟨facts, scoreFile facts, profileWith facts (g.cycleMembers facts.path)
          (g.inCycle facts.path) (g.importers facts.path) untested⟩ := by
  constructor
  · intro h
    obtain ⟨facts, hfacts, hr⟩ := bind_eq_ok_iff.mp h
    obtain ⟨risk, hrisk, rfl⟩ := map_eq_ok_iff.mp hr
    obtain ⟨untested, huntested, rfl⟩ := map_eq_ok_iff.mp hrisk
    exact ⟨facts, untested, hfacts, huntested, rfl⟩
  · rintro ⟨facts, untested, hfacts, huntested, rfl⟩
    refine bind_eq_ok_iff.mpr ⟨facts, hfacts, ?_⟩
    exact map_eq_ok_iff.mpr ⟨_, map_eq_ok_iff.mpr ⟨untested, huntested, rfl⟩, rfl⟩

theorem classifyRisk_mem_all (e : RiskEvidence) : classifyRisk e ∈ RiskLevel.all := by
  rw [classifyRisk]
  split
  · decide
  · split
    · decide
    · decide

/-- The result for a file is about that file, and its level is one of an analysis. -/
theorem verdict_ok {g : Dependencies} {file : Path} {r : FileResult}
    (h : w.verdict target g file = .ok r) :
    r.path = target.fileId file ∧ r.risk.level ∈ RiskLevel.all := by
  obtain ⟨facts, hfacts, hr⟩ := bind_eq_ok_iff.mp h
  obtain ⟨risk, hrisk, rfl⟩ := map_eq_ok_iff.mp hr
  obtain ⟨untested, -, rfl⟩ := map_eq_ok_iff.mp hrisk
  exact ⟨(gatherFacts_ok hfacts).1, classifyRisk_mem_all _⟩

/-- All that the result for a file holds names that file. -/
theorem verdict_about {g : Dependencies} {file : Path} {r : FileResult}
    (h : w.verdict target g file = .ok r) : r.score.path = r.path ∧ r.risk.file = r.path := by
  obtain ⟨facts, untested, -, -, rfl⟩ := verdict_eq_ok_iff.mp h
  exact ⟨scoreFile_path facts, rfl⟩

theorem map_path_of_verdicts {g : Dependencies} {files : List Path} {rs : List FileResult}
    (h : List.Forall₂ (fun file r => w.verdict target g file = .ok r) files rs) :
    rs.map (·.path) = files.map target.fileId := by
  induction h with
  | nil => rfl
  | cons hr _ ih => rw [List.map_cons, List.map_cons, (verdict_ok hr).1, ih]

/-- **The results for a scan are the verdicts on its files.** -/
theorem results_eq_ok_iff (hids : target.LeadsBack) {g : Dependencies} {rs : List FileResult} :
    (w.results target g).result = .ok rs ↔
      List.Forall₂ (fun file r => w.verdict target g file = .ok r) target.files rs := by
  have hsecond : ∀ {snapshot : List FileFacts},
      (Logged.each (w.gatherFacts target) target.files).result = .ok snapshot →
      ((Logged.each (fun facts => .ofExcept (w.fileResult target.projectRoot g snapshot facts))
          snapshot).result = .ok rs ↔
        List.Forall₂ (fun facts r => w.fileResult target.projectRoot g [] facts = .ok r)
          snapshot rs) := by
    intro snapshot hsnapshot
    rw [fileResult_snapshot hids hsnapshot]
    exact Logged.result_each_eq_ok_iff
  calc (w.results target g).result = .ok rs
      ↔ ∃ snapshot, (Logged.each (w.gatherFacts target) target.files).result = .ok snapshot ∧
          (Logged.each (fun facts =>
            .ofExcept (w.fileResult target.projectRoot g snapshot facts)) snapshot).result =
            .ok rs := by
        rw [results, Logged.result_bind, bind_eq_ok_iff]
    _ ↔ ∃ snapshot, List.Forall₂ (fun file facts => (w.gatherFacts target file).result = .ok facts)
          target.files snapshot ∧
          List.Forall₂ (fun facts r => w.fileResult target.projectRoot g [] facts = .ok r)
            snapshot rs := by
        refine exists_congr fun snapshot => ?_
        rw [← Logged.result_each_eq_ok_iff]
        exact and_congr_right hsecond
    _ ↔ List.Forall₂ (fun file r => w.verdict target g file = .ok r) target.files rs := by
        rw [exists_forall₂_and_iff]
        simp only [verdict, bind_eq_ok_iff]

end Workspace

/-! ### Runs -/

theorem summarize_files_perm (root : Path) (policy : Policy) (rs : List FileResult) :
    (summarize root policy rs).files.Perm rs := by
  rw [summarize]
  dsimp only
  split
  · exact List.mergeSort_perm _ _
  · exact List.mergeSort_perm _ _

/-- The records of a scan say nothing about what it finds. -/
theorem Workspace.result_notedScan (w : Workspace) (settings : ScanSettings) (target : String) :
    (w.notedScan settings target).result = w.scan settings target := by
  rw [notedScan, Logged.result_bind, Logged.result_ofExcept]
  cases w.scan settings target with
  | error e => rfl
  | ok found =>
    dsimp only [bind, Except.bind]
    split
    · rfl
    · rfl

namespace Engine

variable {e : Engine} {w : Workspace} {cache : GraphCache} {target : ScanTarget}
  {r : AnalysisResult}

/-- The import graph that a run on a project uses. -/
def graph (e : Engine) (w : Workspace) (cache : GraphCache) (project : Path) :
    Except GraphFailure Dependencies :=
  (cache.getOrBuild project (e.builder.orEmpty w)).1.result

theorem graph_congr {cache₁ cache₂ : GraphCache} {project : Path}
    (h : cache₁.get? project = cache₂.get? project) :
    e.graph w cache₁ project = e.graph w cache₂ project := by
  rw [graph, graph, GraphCache.getOrBuild_congr h]

/-- When a run on a scanned target has a result, and which. -/
theorem analyze_eq_ok_iff (hids : target.LeadsBack) {policy : Policy} :
    (e.analyze w cache target policy).outcome.result = .ok r ↔
      ∃ g, e.graph w cache target.projectRoot = .ok g ∧
        ∃ rs, List.Forall₂ (fun file x => w.verdict target g file = .ok x) target.files rs ∧
          summarize target.projectRoot policy rs = r := by
  have hsteps : (e.analyze w cache target policy).outcome.result = (do
      let g ← (e.graph w cache target.projectRoot).mapError .graph
      let rs ← (w.results target g).result.mapError .file
      pure (summarize target.projectRoot policy rs)) := by
    simp only [analyze, graph, noteStart, Logged.result_bind, Logged.result_mapError,
      Logged.result_info, Logged.result_pure]
    rfl
  rw [hsteps, bind_eq_ok_iff]
  refine exists_congr fun g => ?_
  rw [mapError_eq_ok_iff, bind_eq_ok_iff]
  refine and_congr_right fun _ => exists_congr fun rs => ?_
  rw [mapError_eq_ok_iff, Workspace.results_eq_ok_iff hids]
  exact and_congr_right fun _ => ⟨Except.ok.inj, congrArg Except.ok⟩

/-- **A run has a result when there is a verdict on every file.** -/
theorem exists_analyze_eq_ok_iff (hids : target.LeadsBack) {policy : Policy} :
    (∃ r, (e.analyze w cache target policy).outcome.result = .ok r) ↔
      ∃ g, e.graph w cache target.projectRoot = .ok g ∧
        ∀ file ∈ target.files, ∃ x, w.verdict target g file = .ok x := by
  constructor
  · rintro ⟨r, hr⟩
    obtain ⟨g, hg, rs, hrs, -⟩ := (analyze_eq_ok_iff hids).mp hr
    refine ⟨g, hg, fun file hfile => ?_⟩
    obtain ⟨x, -, hx⟩ := exists_mem_of_forall₂_left hrs hfile
    exact ⟨x, hx⟩
  · rintro ⟨g, hg, hverdicts⟩
    obtain ⟨rs, hrs⟩ := exists_forall₂ hverdicts
    exact ⟨_, (analyze_eq_ok_iff hids).mpr ⟨g, hg, rs, hrs, rfl⟩⟩

/-- When a run has a result, and which. -/
theorem run_eq_ok_iff {name policyName : String} :
    (e.run w cache name policyName).outcome.result = .ok r ↔
      (Policy.ofName policyName).isKnown = true ∧ ∃ found, w.scan e.settings name = .ok found ∧
        (e.analyze w cache found (Policy.ofName policyName)).outcome.result = .ok r := by
  rw [run]
  dsimp only
  split
  · next hknown =>
    rw [Logged.result_mapError, Workspace.result_notedScan]
    cases w.scan e.settings name with
    | error f => simp [hknown, Except.mapError]
    | ok found => simp [hknown, Except.mapError]
  · next hunknown => simp [hunknown]

end Engine

/-! ### A project of two files -/

/-- A project of two files, one of which imports the other. -/
def twoFiles : Workspace :=
  { top := .directory [("p", .directory [("package.json", .file []),
      ("a.ts", .file "import './b'".toUTF8.toList), ("b.ts", .file [])])]
    current := []
    home := [] }

/-- An engine that knows the import graph of the two files. -/
def twoFilesEngine : Engine :=
  { builder := fun _ _ => pure
      { cycles := []
        incoming := [("b.ts", ["a.ts"])]
        nodes := ["a.ts", "b.ts"]
        byStem := [("a", ["a.ts"]), ("b", ["b.ts"])]
        cyclesById := [] } }

/-- The two files as a scan finds them. -/
def twoFilesFound : ScanTarget :=
  ⟨⟨.top, ["p"]⟩, ⟨.top, ["p"]⟩, [⟨.top, ["p", "a.ts"]⟩, ⟨.top, ["p", "b.ts"]⟩]⟩

theorem wellNamed_twoFiles : twoFiles.WellNamed := by
  rw [Workspace.WellNamed]
  decide

theorem scan_twoFiles : twoFiles.scan {} "/p" = .ok twoFilesFound := by
  have hwalk : twoFiles.sourceFiles ⟨[], defaultExtensions, false⟩ ["p"] ["p"] =
      [["p", "a.ts"], ["p", "b.ts"]].mergeSort comesNoLater := by
    rw [Workspace.sourceFiles]
    congr 1
    decide +kernel
  calc twoFiles.scan {} "/p" =
        .ok ⟨⟨.top, ["p"]⟩, ⟨.top, ["p"]⟩, (twoFiles.sourceFiles ⟨[], defaultExtensions, false⟩
          ["p"] ["p"]).map Workspace.pathOf⟩ := rfl
    _ = .ok twoFilesFound := by
        rw [hwalk, List.mergeSort_of_pairwise (by decide)]
        rfl

theorem exists_analyze_twoFiles (policy : Policy) :
    ∃ r, (twoFilesEngine.analyze twoFiles {} twoFilesFound policy).outcome.result = .ok r := by
  have hids := ScanTarget.leadsBack_of_scan wellNamed_twoFiles scan_twoFiles
  rw [Engine.exists_analyze_eq_ok_iff hids]
  refine ⟨_, rfl, fun file hfile => exists_eq_ok ?_⟩
  rcases List.mem_pair.mp hfile with rfl | rfl
  · decide +kernel
  · decide +kernel

end Preflight
