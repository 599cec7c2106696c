import Preflight.Proofs.Run.Coherence
import Preflight.Proofs.Run.Settings

/-!
# The project of the settings and the project of the report

A project is searched for twice. The settings are those of the project found with the manifests
that mark one where nothing is configured, because what is configured is not known yet. The report
is about the project found with the manifests of these settings: there its files are called by
their names below the project, and the rules of that project decide on them. Both searches start at
the same place, and where they look for the same manifests they find the same project.

## Main results

* `settings_project`: whose settings a report is made with, and about which project it is.
* `settings_of_outer_project`: a report on one project with the settings of another.
-/

namespace Preflight

/-! ### Paths and their text -/

namespace Workspace

variable {w : Workspace} {path : String} {target : Path}

theorem isSegment_of_expandHome (hhome : ∀ s ∈ w.home, isFileName s = true)
    (h : w.expandHome (Path.ofString path) = .ok target) :
    ∀ s ∈ target.segments, Path.isSegment s = true := by
  have hread : ∀ s ∈ (Path.ofString path).segments, Path.isSegment s = true := fun s hs =>
    (List.mem_filter.mp hs).2
  unfold expandHome at h
  split at h
  · next s rest _ hsegments =>
    rw [hsegments] at hread
    split at h
    · obtain rfl := Except.ok.inj h
      intro t ht
      rcases List.mem_append.mp ht with ht | ht
      · exact isSegment_of_isFileName (hhome t ht)
      · exact hread t (List.mem_cons_of_mem _ ht)
    · split at h
      · cases h
      · obtain rfl := Except.ok.inj h
        rw [hsegments]
        exact hread
  · obtain rfl := Except.ok.inj h
    exact hread

/-- The path of what is there is read back from its text. -/
theorem ofString_text_of_existingPath (hw : w.WellNamed)
    (hhome : ∀ s ∈ w.home, isFileName s = true) (h : w.existingPath path = .ok target) :
    Path.ofString target.text = target := by
  obtain ⟨hexpand, hexists⟩ := existingPath_eq_ok_iff.mp h
  obtain ⟨e, he⟩ := exists?_eq_true_iff.mp hexists
  obtain ⟨place, hplace, -⟩ := entry_eq_ok_iff.mp he
  refine Path.ofString_text_of_readable target fun s hs => ?_
  refine ⟨isSegment_of_expandHome hhome hexpand s hs, ?_⟩
  rcases names_of_follow hw hplace s hs with (rfl | rfl | rfl) | hname
  · decide
  · decide
  · decide
  · exact (isFileName_iff.mp hname).2.2.2

/-- Names of files are told apart in the text of a place. -/
theorem pathOf_text_inj {p q : Place} (hp : ∀ s ∈ p, isFileName s = true)
    (hq : ∀ s ∈ q, isFileName s = true) : (pathOf p).text = (pathOf q).text ↔ p = q := by
  refine ⟨fun h => ?_, fun h => by rw [h]⟩
  have hread : pathOf p = pathOf q := by
    rw [← Path.ofString_text (pathOf p) hp, h, Path.ofString_text (pathOf q) hq]
  exact congrArg Path.segments hread

end Workspace

/-! ### The project of a report -/

theorem projectRoot_summarize (root : Path) (policy : Policy) (rs : List FileResult) :
    (summarize root policy rs).projectRoot = root.text := by
  rw [summarize]
  dsimp only
  split
  · rfl
  · rfl

/-- A report is about the project of its scan. -/
theorem Engine.projectRoot_of_run {e : Engine} {w : Workspace} (hw : w.WellNamed)
    {cache : GraphCache} {name policyName : String} {r : AnalysisResult} {found : ScanTarget}
    (hscan : w.scan e.settings name = .ok found)
    (h : (e.run w cache name policyName).outcome.result = .ok r) :
    r.projectRoot = found.projectRoot.text := by
  obtain ⟨-, found', hscan', hanalyze⟩ := run_eq_ok_iff.mp h
  obtain rfl := Except.ok.inj (hscan.symm.trans hscan')
  obtain ⟨g, -, rs, -, rfl⟩ :=
    (analyze_eq_ok_iff (ScanTarget.leadsBack_of_scan hw hscan)).mp hanalyze
  exact projectRoot_summarize _ _ rs

/-- Settings are those of a project: they are loaded for it, and belong to the directory that its
configuration file is in, which is the project unless that file is a link. -/
structure SettingsOf (w : Workspace) (root : Place) (c : Config) : Prop where
  loaded : w.loadConfig (Workspace.pathOf root) = .ok c
  file : ∃ file, w.configFile (Workspace.pathOf root) = .ok file ∧
    w.realPath file.parent = .ok c.root
  root : (∀ link, w.top.at? (root ++ [configFileName]) ≠ some (.link link)) →
    c.root = Workspace.pathOf root

/-- What a report on a path is about: a project, files of it called by their names below it, and,
for a directory, what the rules of that project leave of it. -/
structure ReportsOn (w : Workspace) (settings : ScanSettings) (place root : Place)
    (r : AnalysisResult) : Prop where
  project : r.projectRoot = (Workspace.pathOf root).text
  files : ∃ files : List Path,
    (r.files.map (·.path)).Perm (files.map fun file => file.seenFrom (Workspace.pathOf root)) ∧
      (w.isFile (Workspace.pathOf place) = true ∧ files = [Workspace.pathOf place] ∨
        ∃ rules, w.ignoreRules (Workspace.pathOf root) settings.excludePaths = .ok rules ∧
          files = (w.sourceFiles ⟨rules, settings.extensions, false⟩ root place).map
            Workspace.pathOf)

/-- **Whose settings a report is made with.** They are those of the project that is found with the
manifests that mark one where nothing is configured, and the report is about the project that is
found with the manifests of these settings. -/
theorem settings_project {w : Workspace} (hw : w.WellNamed) (hfit : w.NamesFit)
    (hcurrent : w.top.DirectoryAt w.current) (hhome : ∀ s ∈ w.home, isFileName s = true)
    {path : String} {policy : Option String} {run : ProjectRun}
    (h : (w.runProject path policy).result = .ok run) :
    ∃ target place configured reported,
      w.existingPath path = .ok target ∧ w.resolve target = .ok (Workspace.pathOf place) ∧
      w.findProjectRoot defaultManifests target = .ok (Workspace.pathOf configured) ∧
      w.ProjectTop defaultManifests (w.searchStart (Workspace.pathOf place)) configured ∧
      SettingsOf w configured run.config ∧
      w.ProjectTop run.config.scan.manifestFiles (w.searchStart (Workspace.pathOf place)) reported ∧
      ReportsOn w run.config.scan place reported run.result ∧
      ((∀ link, w.top.at? (configured ++ [configFileName]) ≠ some (.link link)) →
        (run.config.root.text = run.result.projectRoot ↔ configured = reported)) ∧
      (run.config.scan.manifestFiles = defaultManifests → configured = reported) := by
  obtain ⟨target, htarget, hsettings, hrun⟩ := Workspace.runProject_eq_ok_iff.mp h
  obtain ⟨place, hreal, hproject⟩ :=
    Workspace.exists_project_of_existingPath hw hfit hcurrent htarget
  obtain ⟨p, hp, hload⟩ := Workspace.settingsFor_eq_ok_iff.mp hsettings
  obtain ⟨configured, rfl, hconfiguredTop, hconfiguredDir⟩ := hproject defaultManifests p hp
  obtain ⟨found, hscan, hcoherent⟩ := Engine.exists_coherent_of_run hw hrun
  -- the run is told the target by its text
  obtain ⟨real, hreal', hroot, hfiles⟩ := Workspace.scan_ok hscan
  rw [Workspace.ofString_text_of_existingPath hw hhome htarget] at hreal'
  obtain rfl := Except.ok.inj (hreal.symm.trans hreal')
  have hreported : w.findProjectRoot run.config.scan.manifestFiles target =
      .ok found.projectRoot := by
    rw [Workspace.findProjectRoot, hreal]
    exact mapError_eq_ok_iff.mpr hroot
  obtain ⟨reported, hfound, hreportedTop, hreportedDir⟩ := hproject _ _ hreported
  have hprojectText := Engine.projectRoot_of_run hw hscan hrun
  rw [hfound] at hprojectText hfiles
  have hcRoot := fun hlink =>
    Workspace.root_of_loadConfig hw hfit hconfiguredDir hlink hload
  refine ⟨target, place, configured, reported, htarget, hreal, hp, hconfiguredTop,
    ⟨hload, Workspace.exists_root_of_loadConfig hload, hcRoot⟩, hreportedTop,
    ⟨hprojectText, found.files, ?_, hfiles⟩, fun hlink => ?_, fun hmanifests => ?_⟩
  · rw [← hfound]
    exact hcoherent.paths
  · rw [hcRoot hlink, hprojectText]
    obtain ⟨es, hes⟩ := hconfiguredDir
    obtain ⟨es', hes'⟩ := hreportedDir
    exact Workspace.pathOf_text_inj (Entry.names_of_at? hw hes) (Entry.names_of_at? hw hes')
  · rw [hmanifests] at hreportedTop
    exact hconfiguredTop.unique hreportedTop

/-! ### A project within a project -/

/-- The configuration of a project that marks projects by another manifest. -/
def otherManifest : List UInt8 :=
  "scan: \x7bmanifest_files: [go.mod]\x7d\n".toList.map fun c => c.toNat.toUInt8

/-- A project within a project: the outer one has the configuration, by which the inner one is
marked as a project. -/
def nestedProject : Workspace :=
  { top := .directory [("p", .directory [("package.json", .file []),
      (".aiready.yml", .file otherManifest), ("sub", .directory [("go.mod", .file [])])])]
    current := []
    home := [] }

theorem wellNamed_nestedProject : nestedProject.WellNamed := by
  rw [Workspace.WellNamed]
  rfl

/-- The settings of the outer project. -/
def outerSettings : Config :=
  { root := ⟨.top, ["p"]⟩, scan := { manifestFiles := ["go.mod"] } }

theorem loadConfig_nestedProject :
    nestedProject.loadConfig ⟨.top, ["p"]⟩ = .ok outerSettings := by
  decide +kernel

/-- The inner project as a scan finds it. -/
def innerFound : ScanTarget := ⟨⟨.top, ["p", "sub"]⟩, ⟨.top, ["p", "sub"]⟩, []⟩

theorem scan_nestedProject : nestedProject.scan outerSettings.scan "/p/sub" = .ok innerFound := by
  have hwalk : nestedProject.sourceFiles ⟨[], defaultExtensions, false⟩ ["p", "sub"] ["p", "sub"] =
      [] := by
    rw [Workspace.sourceFiles, ← List.mergeSort_nil (r := comesNoLater)]
    congr 1
    decide +kernel
  calc nestedProject.scan outerSettings.scan "/p/sub" =
        .ok ⟨⟨.top, ["p", "sub"]⟩, ⟨.top, ["p", "sub"]⟩,
          (nestedProject.sourceFiles ⟨[], defaultExtensions, false⟩ ["p", "sub"]
            ["p", "sub"]).map Workspace.pathOf⟩ := rfl
    _ = .ok innerFound := by
        rw [hwalk]
        rfl

theorem settingsFor_nestedProject :
    nestedProject.settingsFor ⟨.top, ["p", "sub"]⟩ = .ok outerSettings := by
  have hroot : nestedProject.findProjectRoot defaultManifests ⟨.top, ["p", "sub"]⟩ =
      .ok ⟨.top, ["p"]⟩ := rfl
  rw [Workspace.settingsFor, hroot]
  exact mapError_eq_ok_iff.mpr loadConfig_nestedProject

/-- There is a report on the inner project, with the settings of the outer one. -/
theorem exists_run_nestedProject :
    ∃ r, (nestedProject.runProject "/p/sub" none).result = .ok ⟨outerSettings, r⟩ ∧
      r.projectRoot = "/p/sub" := by
  have hids := ScanTarget.leadsBack_of_scan wellNamed_nestedProject scan_nestedProject
  have hrules : nestedProject.ignoreRules innerFound.projectRoot [] = .ok [] := rfl
  obtain ⟨sources, hgraph, -⟩ :=
    Engine.exists_graph_eq_ofSources outerSettings.scan { excludePaths := [] } hrules
  obtain ⟨r, hr⟩ := (Engine.exists_analyze_eq_ok_iff hids).mpr
    ⟨_, hgraph, fun file hfile => absurd hfile List.not_mem_nil⟩
  have hrun : ((Engine.ofConfig outerSettings).run nestedProject {} "/p/sub" "risk").outcome.result =
      .ok r :=
    Engine.run_eq_ok_iff.mpr ⟨by decide, _, scan_nestedProject, hr⟩
  have hproject := Engine.projectRoot_of_run wellNamed_nestedProject scan_nestedProject hrun
  have htext : (⟨.top, ["p", "sub"]⟩ : Path).text = "/p/sub" := by decide
  have hpolicy :
      ((none : Option String).filter (· ≠ "")).getD outerSettings.policy.name = "risk" := by
    decide
  have htarget : nestedProject.existingPath "/p/sub" = .ok ⟨.top, ["p", "sub"]⟩ := rfl
  refine ⟨r, Workspace.runProject_eq_ok_iff.mpr ⟨_, htarget, settingsFor_nestedProject, ?_⟩,
    hproject.trans htext⟩
  dsimp only
  rw [hpolicy, htext]
  exact hrun

/-- **Settings of another project.** A report on the inner project is made with the settings of the
outer one. -/
theorem settings_of_outer_project :
    ∃ run, (nestedProject.runProject "/p/sub" none).result = .ok run ∧
      run.config.root.text ≠ run.result.projectRoot := by
  obtain ⟨r, hr, hproject⟩ := exists_run_nestedProject
  refine ⟨_, hr, ?_⟩
  dsimp only
  rw [hproject]
  decide

/-- The inner project is reported on, and the settings are those of the outer one. -/
theorem settings_project_nestedProject :
    ∃ r, (nestedProject.runProject "/p/sub" none).result = .ok ⟨outerSettings, r⟩ ∧
      nestedProject.ProjectTop defaultManifests ["p", "sub"] ["p"] ∧
      nestedProject.ProjectTop ["go.mod"] ["p", "sub"] ["p", "sub"] ∧
      SettingsOf nestedProject ["p"] outerSettings ∧
      ReportsOn nestedProject outerSettings.scan ["p", "sub"] ["p", "sub"] r := by
  obtain ⟨r, hr, -⟩ := exists_run_nestedProject
  have hfit : nestedProject.NamesFit := by
    have hnames : nestedProject.top.names =
        ["p", "package.json", ".aiready.yml", "sub", "go.mod"] := rfl
    rw [Workspace.NamesFit, hnames]
    decide +kernel
  obtain ⟨target, place, configured, reported, htarget, hplace, -, hconfigured, hsettings,
    hreported, hreports, -, -⟩ :=
    settings_project wellNamed_nestedProject hfit ⟨_, rfl⟩ (by simp [nestedProject]) hr
  obtain rfl : (⟨.top, ["p", "sub"]⟩ : Path) = target := Except.ok.inj htarget
  obtain rfl : ["p", "sub"] = place := congrArg Path.segments (Except.ok.inj hplace)
  change nestedProject.ProjectTop defaultManifests ["p", "sub"] configured at hconfigured
  change nestedProject.ProjectTop ["go.mod"] ["p", "sub"] reported at hreported
  have houter : nestedProject.ProjectTop defaultManifests ["p", "sub"] ["p"] := by
    have hnearest : ∀ q ∈ placesAbove ["p", "sub"], 1 < q.length →
        nestedProject.hasManifest defaultManifests (Workspace.pathOf q) = .ok false := by
      decide +kernel
    exact ⟨by decide, fun q hq => hnearest q (mem_placesAbove_iff.mpr hq), Or.inl rfl⟩
  have hinner : nestedProject.ProjectTop ["go.mod"] ["p", "sub"] ["p", "sub"] :=
    ⟨by decide, fun q hq hlength => absurd hq.length_le (Nat.not_le.mpr hlength), Or.inl rfl⟩
  obtain rfl := houter.unique hconfigured
  obtain rfl := hinner.unique hreported
  exact ⟨r, hr, houter, hinner, hsettings, hreports⟩

end Preflight
