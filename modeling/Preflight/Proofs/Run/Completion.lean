import Preflight.Proofs.Risk.FinalProfile
import Preflight.Proofs.Run.TestAdded
import Preflight.Proofs.Tests.Search

/-!
# Runs that complete

Whatever is in the files of a directory, a run on it has a result, as long as the ignore file of its
project is text. A source file that is no text has facts that say so, one that follows no grammar
has fewer facts, malformed bytes of a test are left out, and without an import graph a run goes on.
Only the ignore file is read strictly, and outside of what a run can do without.

## Main results

* `Workspace.exists_verdict`: there is a verdict on every script file.
* `Engine.exists_run_of_scan`: a scan that finds script files leads to a result.
* `run_completes_iff`: when a run on a directory has a result.
-/

namespace Preflight

/-! ### Script files -/

/-- A path of names that leads to a script file. -/
structure Workspace.IsScript (w : Workspace) (p : Path) : Prop where
  names : ∀ s ∈ p.segments, isFileName s = true
  isFile : w.isFile p = true
  script : Selection.takesName ⟨[], graphExtensions, false⟩ p.name = true

namespace Selection

variable {rules rules' : List IgnoreRule} {extensions more : List String} {tests tests' : Bool}

/-- More suffixes take more names. -/
theorem takesName_mono (h : ∀ ext ∈ extensions, ext ∈ more) {name : String}
    (htakes : takesName ⟨rules, extensions, tests⟩ name = true) :
    takesName ⟨rules', more, tests'⟩ name = true := by
  simp only [takesName, Bool.and_eq_true, List.any_eq_true] at htakes ⊢
  obtain ⟨⟨ext, hext, hends⟩, hrest⟩ := htakes
  exact ⟨⟨ext, h ext hext, hends⟩, hrest⟩

end Selection

namespace Workspace

variable {w : Workspace}

/-- What a walk takes is a script file, if it looks for script files. -/
theorem isScript_of_mem_sourceFiles (hw : w.WellNamed) (hdistinct : w.DistinctNames)
    {rules : List IgnoreRule} {extensions : List String}
    (hext : ∀ ext ∈ extensions, ext ∈ graphExtensions) {base directory place : Place}
    (hbase : base <+: directory) (hdirections : ∀ s ∈ directory, ¬isDirection s)
    (h : place ∈ w.sourceFiles ⟨rules, extensions, false⟩ base directory) :
    w.IsScript (pathOf place) := by
  obtain ⟨down, rfl⟩ := hbase
  have hnames := names_of_mem_sourceFiles hw hdirections h
  obtain ⟨hfile, htakes, name, rest, rfl, -⟩ := (mem_sourceFiles_iff hw hdistinct).mp h
  refine ⟨hnames, hfile, ?_⟩
  rw [List.append_assoc, placeBelow_append, Selection.takes, Bool.and_eq_true,
    Bool.and_eq_true] at htakes
  have hname : (pathOf (base ++ down ++ name :: rest)).name =
      (down ++ name :: rest).getLast?.getD "" := by
    rw [Path.name, pathOf, List.append_assoc,
      List.getLast?_append_of_ne_nil _ (List.append_ne_nil_of_right_ne_nil _ (by simp))]
  rw [hname]
  exact Selection.takesName_mono hext htakes.1.1

/-! ### Verdicts -/

variable {target : ScanTarget} {g : Dependencies}

/-- The facts of a file can be had when its tests can be looked for. -/
theorem exists_gatherFacts {file : Path} {coverage : TestCoverage}
    (h : w.discoverTests file target.projectRoot = .ok coverage) :
    ∃ facts, (w.gatherFacts target file).result = .ok facts := by
  obtain ⟨facts, hfacts, -⟩ :=
    exists_readFacts (ε := FileFault) w file (target.fileId file) coverage
  refine ⟨facts, ?_⟩
  rw [gatherFacts, Logged.result_bind, Logged.result_ofExcept, h]
  exact hfacts

/-- **There is a verdict on every script file**, whatever it holds, if its importers are script
files as well. -/
theorem exists_verdict (h : w.SearchFits) (hroot : ∀ s ∈ target.projectRoot.segments, Fits s)
    (himporters : ∀ id, ∀ importer ∈ g.importers id,
      w.IsScript (target.projectRoot.join (Path.ofString importer)))
    {file : Path} (hfile : w.IsScript file) : ∃ x, w.verdict target g file = .ok x := by
  have htests : ∀ p, w.IsScript p → ∃ coverage,
      w.discoverTests p target.projectRoot = .ok coverage := fun p hp =>
    h.exists_discoverTests hp.isFile
      (fun s hs => not_isDirection_of_isFileName (hp.names s hs)) hp.script hroot
  obtain ⟨coverage, hcoverage⟩ := htests file hfile
  obtain ⟨facts, hfacts⟩ := exists_gatherFacts hcoverage
  have hlooked : ∀ importer ∈ g.importers facts.path,
      ∃ tested, importerHasTest w target.projectRoot [] importer = .ok tested := by
    intro importer himporter
    obtain ⟨coverage, hcoverage⟩ := htests _ (himporters facts.path importer himporter)
    rw [importerHasTest_nil, hcoverage]
    exact ⟨_, rfl⟩
  obtain ⟨untested, huntested⟩ := exists_withoutTest_iff.mpr hlooked
  refine ⟨_, verdict_eq_ok_iff.mpr ⟨facts, sorted untested, hfacts, ?_, rfl⟩⟩
  rw [untestedImporters, huntested]
  rfl

/-! ### Rules and scans -/

/-- The rules of a project can be had unless its ignore file is no text. -/
theorem ignoreRules_eq_error_iff {root : Path} {excluded : List String}
    {e : Text.Utf8.DecodeError} :
    w.ignoreRules root excluded = .error e ↔
      w.readText (root.child ignoreFileName) = .error (.decode e) := by
  rw [ignoreRules]
  cases w.readText (root.child ignoreFileName) with
  | ok text => simp
  | error f =>
    cases f with
    | file _ => simp
    | decode e' => simp

/-- What comes of a scan of a directory: it has rules and takes files, or the ignore file is no
text. -/
theorem scan_of_directory {settings : ScanSettings} {name : String} {place : Place}
    {es : List (String × Entry)} (hreal : w.resolve (Path.ofString name) = .ok (pathOf place))
    (hentry : w.entry (pathOf place) = .ok (.directory es)) {root : Path}
    (hroot : w.projectRootAbove settings.manifestFiles (pathOf place) = .ok root) :
    w.scan settings name =
      ((w.ignoreRules root settings.excludePaths).map fun rules =>
        (⟨root, pathOf place, (w.sourceFiles ⟨rules, settings.extensions, false⟩ root.segments
          place).map pathOf⟩ : ScanTarget)).mapError .ignoreFile := by
  have hnoFile : w.isFile (pathOf place) = false := by
    rw [isFile, hentry]
    rfl
  rw [scan, hreal]
  dsimp only
  rw [exists?_eq_true_iff.mpr ⟨_, hentry⟩]
  dsimp only
  rw [scanFrom, hroot]
  dsimp only
  rw [hnoFile, if_neg Bool.false_ne_true]
  cases w.ignoreRules root settings.excludePaths with
  | error e => rfl
  | ok rules => rfl

end Workspace

/-! ### Runs -/

namespace Engine

variable {w : Workspace}

theorem result_run_of_scan_error {e : Engine} {cache : GraphCache} {name policyName : String}
    {error : ScanError} (hknown : (Policy.ofName policyName).isKnown = true)
    (h : w.scan e.settings name = .error error) :
    (e.run w cache name policyName).outcome.result = .error (.scan error) := by
  have hscanned : ((w.notedScan e.settings name).mapError RunError.scan).result =
      .error (.scan error) := by
    rw [Logged.result_mapError, Workspace.result_notedScan, h]
    rfl
  rw [run]
  dsimp only
  rw [if_pos hknown, hscanned]

/-- The graph of a run is one of script files, and so are the importers it names. -/
theorem exists_graph_of_scripts (hw : w.WellNamed) (hdistinct : w.DistinctNames) {root : Path}
    (htop : root.anchor = .top) (hdirections : ∀ s ∈ root.segments, ¬isDirection s)
    {rules : List IgnoreRule} (hrules : w.ignoreRules root [] = .ok rules) :
    ∃ g, ({} : Engine).graph w {} root = .ok g ∧
      ∀ id, ∀ importer ∈ g.importers id, w.IsScript (root.join (Path.ofString importer)) := by
  obtain ⟨sources, hsources, -⟩ := Workspace.map_fst_graphSources {} hrules
  refine ⟨_, graph_of_ok (Workspace.buildGraph_eq_ok_iff.mpr ⟨sources, hsources, rfl⟩), ?_⟩
  intro id importer himporter
  obtain ⟨rules', -, place, hplace, hjoin⟩ :=
    Workspace.exists_mem_sourceFiles_of_mem_graphSources hw hdistinct htop hdirections hsources
      (mem_sources_of_mem_importers himporter)
  rw [hjoin]
  exact Workspace.isScript_of_mem_sourceFiles hw hdistinct (fun ext hext => hext)
    List.prefix_rfl hdirections hplace

/-- **A scan that finds script files** leads to a result. -/
theorem exists_run_of_scan (hw : w.WellNamed) (hdistinct : w.DistinctNames)
    (hfit : w.SearchFits) {name policyName : String}
    (hknown : (Policy.ofName policyName).isKnown = true) {found : ScanTarget}
    (hscan : w.scan {} name = .ok found) {rules : List IgnoreRule}
    (hrules : w.ignoreRules found.projectRoot [] = .ok rules)
    (hroot : ∀ s ∈ found.projectRoot.segments, Fits s)
    (hfiles : ∀ file ∈ found.files, w.IsScript file) :
    ∃ r, (({} : Engine).run w {} name policyName).outcome.result = .ok r := by
  obtain ⟨real, -, -, htop, hdirections, -⟩ := Workspace.scan_project hscan
  obtain ⟨g, hg, himporters⟩ := exists_graph_of_scripts hw hdistinct htop hdirections hrules
  have hids := ScanTarget.leadsBack_of_scan hw hscan
  obtain ⟨r, hr⟩ := (exists_analyze_eq_ok_iff hids).mpr
    ⟨g, hg, fun file hfile => Workspace.exists_verdict hfit hroot himporters (hfiles file hfile)⟩
  exact ⟨r, run_eq_ok_iff.mpr ⟨hknown, found, hscan, hr⟩⟩

end Engine

/-- **A run on a directory completes** unless the ignore file of its project is no text, whatever is
in its files; and if so, that is what the run ends with. -/
theorem run_completes_iff {w : Workspace} (hw : w.WellNamed) (hdistinct : w.DistinctNames)
    (hfit : w.SearchFits) {name policyName : String}
    (hknown : (Policy.ofName policyName).isKnown = true) {p : Path}
    (hp : w.expandHome (Path.ofString name) = .ok p) (hdirectory : w.isDirectory p = true) :
    ∃ root, w.findProjectRoot defaultManifests (Path.ofString name) = .ok root ∧
      ((∃ r, (({} : Engine).run w {} name policyName).outcome.result = .ok r) ↔
        ∀ e, w.readText (root.child ignoreFileName) ≠ .error (.decode e)) ∧
      ∀ e, w.readText (root.child ignoreFileName) = .error (.decode e) →
        (({} : Engine).run w {} name policyName).outcome.result =
          .error (.scan (.ignoreFile e)) := by
  obtain ⟨es, hes⟩ := Workspace.isDirectory_iff.mp hdirectory
  obtain ⟨place, hreal, -, hnames, hentry⟩ := Workspace.exists_real hw hfit.names hes rfl
  have hresolve : w.resolve (Path.ofString name) = .ok (Workspace.pathOf place) := by
    rw [Workspace.resolve, hp]
    exact hreal
  have htop : (Workspace.pathOf place).anchor = .top := rfl
  have hplace : ∀ s ∈ place, Fits s := fun s hs => (hnames s hs).2.2
  have hmanifests : ∀ name ∈ defaultManifests, ∀ s ∈ (Path.ofString name).segments, Fits s := by
    unfold Fits
    decide +kernel
  obtain ⟨root, hroot⟩ := hfit.exists_projectRootAbove htop hplace hmanifests
  obtain ⟨-, habove⟩ := Workspace.projectRootAbove_isPrefix htop hroot
  have hscan : w.scan {} name = _ := Workspace.scan_of_directory hresolve hentry hroot
  refine ⟨root, ?_, ?_⟩
  · rw [Workspace.findProjectRoot, hresolve]
    exact mapError_eq_ok_iff.mpr hroot
  cases hrules : w.ignoreRules root [] with
  | error e =>
    rw [hrules] at hscan
    have hrun : (({} : Engine).run w {} name policyName).outcome.result =
        .error (.scan (.ignoreFile e)) := Engine.result_run_of_scan_error hknown hscan
    have hread := Workspace.ignoreRules_eq_error_iff.mp hrules
    refine ⟨⟨?_, fun hnone => absurd hread (hnone e)⟩, ?_⟩
    · rintro ⟨r, hr⟩
      cases hrun.symm.trans hr
    · intro e' he'
      obtain rfl : e = e' := by simpa using hread.symm.trans he'
      exact hrun
  | ok rules =>
    have hread : ∀ e, w.readText (root.child ignoreFileName) ≠ .error (.decode e) := by
      intro e he
      cases hrules.symm.trans (Workspace.ignoreRules_eq_error_iff.mpr he)
    refine ⟨iff_of_true ?_ hread, fun e he => absurd he (hread e)⟩
    rw [hrules] at hscan
    refine Engine.exists_run_of_scan hw hdistinct hfit hknown hscan hrules
      (fun s hs => hplace s (habove.subset hs)) fun file hfile => ?_
    obtain ⟨place', hplace', rfl⟩ := List.mem_map.mp hfile
    exact Workspace.isScript_of_mem_sourceFiles hw hdistinct (by decide) habove
      (fun s hs => (hnames s hs).2.1) hplace'

/-! ### A project whose files are no text -/

/-- A project of a source file and an ignore file. -/
def bytesProject (source ignored : List UInt8) : Workspace :=
  { top := .directory [("p", .directory [("package.json", .file []), ("a.ts", .file source),
      (".gitignore", .file ignored)])]
    current := []
    home := [] }

theorem searchFits_bytesProject (source ignored : List UInt8) :
    (bytesProject source ignored).SearchFits where
  names := by
    have hnames : (bytesProject source ignored).top.names =
        ["p", "package.json", "a.ts", ".gitignore"] := rfl
    rw [Workspace.NamesFit, hnames]
    decide +kernel
  links := by
    intro place target hlink
    exact absurd (Entry.mem_linkPlaces hlink) List.not_mem_nil
  tests := by
    have hnames : (bytesProject source ignored).top.names =
        ["p", "package.json", "a.ts", ".gitignore"] := rfl
    rw [hnames]
    unfold Fits
    decide +kernel

/-- A run completes on a source file that is no text, but not with such an ignore file. -/
theorem run_completes_iff_bytesProject :
    (∃ r, (({} : Engine).run (bytesProject [0xff] []) {} "/p" "risk").outcome.result = .ok r) ∧
      ∃ e, (({} : Engine).run (bytesProject [] [0xff]) {} "/p" "risk").outcome.result =
        .error (.scan (.ignoreFile e)) := by
  have hknown : (Policy.ofName "risk").isKnown = true := by decide
  have hpath : ∀ source ignored,
      (bytesProject source ignored).expandHome (Path.ofString "/p") = .ok ⟨.top, ["p"]⟩ :=
    fun _ _ => rfl
  have hruns := fun source ignored => run_completes_iff (w := bytesProject source ignored)
    (by rw [Workspace.WellNamed]; rfl) (by rw [Workspace.DistinctNames]; rfl)
    (searchFits_bytesProject source ignored) hknown (hpath source ignored) rfl
  have htext : (bytesProject [0xff] []).readText ⟨.top, ["p", ".gitignore"]⟩ = .ok "" := by
    decide +kernel
  have hnoText : (bytesProject [] [0xff]).readText ⟨.top, ["p", ".gitignore"]⟩ =
      .error (.decode ⟨0, 0xff, 0, .start⟩) := by
    decide +kernel
  constructor
  · obtain ⟨root, hroot, hcompletes, -⟩ := hruns [0xff] []
    obtain rfl : (⟨.top, ["p"]⟩ : Path) = root := Except.ok.inj hroot
    refine hcompletes.mpr fun e he => ?_
    cases htext.symm.trans he
  · obtain ⟨root, hroot, -, hfails⟩ := hruns [] [0xff]
    obtain rfl : (⟨.top, ["p"]⟩ : Path) = root := Except.ok.inj hroot
    exact ⟨_, hfails _ hnoText⟩

end Preflight
