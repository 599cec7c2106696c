import Preflight.Proofs.Config.Load
import Preflight.Proofs.Run.Project

/-!
# Settings at the command line

A scan of something that is there reads the configuration of its project first. If that is wrong,
the scan says so and ends with a status; it ends without one only where the configuration stops the
reader.

## Main results

* `Workspace.exists_project_of_existingPath`: what is there belongs to a project.
* `CommandLine.settings_reported_iff`: when a scan says what is wrong with a configuration.
-/

namespace Preflight

/-! ### Projects of what is there -/

namespace Workspace

variable {w : Workspace} {path : String} {target : Path}

theorem existingPath_eq_ok_iff :
    w.existingPath path = .ok target ↔
      w.expandHome (Path.ofString path) = .ok target ∧ w.exists? target = .ok true := by
  rw [existingPath]
  cases w.expandHome (Path.ofString path) with
  | error e => simp
  | ok p =>
    dsimp only
    constructor
    · intro h
      split at h
      · cases h
      · cases h
      · next hexists =>
        obtain rfl := Except.ok.inj h
        exact ⟨rfl, hexists⟩
    · rintro ⟨hp, hexists⟩
      obtain rfl := Except.ok.inj hp
      rw [hexists]

/-- A path without the sign of the home directory is kept. -/
theorem expandHome_expanded {p q : Path} (h : w.expandHome p = .ok q) : w.expandHome q = .ok q := by
  obtain ⟨anchor, segments⟩ := p
  cases anchor with
  | top | doubled =>
    obtain rfl := Except.ok.inj h
    rfl
  | here =>
    cases segments with
    | nil =>
      obtain rfl := Except.ok.inj h
      rfl
    | cons s rest =>
      have hexpand := h
      rw [expandHome] at h
      dsimp only at h
      split at h
      · obtain rfl := Except.ok.inj h
        rfl
      · split at h
        · cases h
        · obtain rfl := Except.ok.inj h
          exact hexpand

theorem settingsFor_eq_ok_iff {c : Config} :
    w.settingsFor target = .ok c ↔ ∃ root,
      w.findProjectRoot defaultManifests target = .ok root ∧ w.loadConfig root = .ok c := by
  rw [settingsFor]
  cases w.findProjectRoot defaultManifests target with
  | error failure => cases failure <;> simp
  | ok root => simp [mapError_eq_ok_iff]

/-- The report for something that is there. -/
theorem result_runProject {policy : Option String} (h : w.existingPath path = .ok target) :
    (w.runProject path policy).result = w.settingsFor target >>= fun config =>
      (((Engine.ofConfig config).run w {} target.text
        ((policy.filter (· ≠ "")).getD config.policy.name)).outcome.result.mapError .run).map
          fun result => ⟨config, result⟩ := by
  rw [runProject, Logged.result_bind, Logged.result_ofExcept, h]
  refine (Logged.result_bind _ _).trans (bind_congr fun config => ?_)
  dsimp only
  rw [Logged.result_bind, Logged.result_mapError]
  cases (((Engine.ofConfig config).run w {} target.text
      ((policy.filter (· ≠ "")).getD config.policy.name)).outcome.result).mapError
        ProjectError.run with
  | error e => rfl
  | ok result => rfl

/-- **What is there belongs to a project**: it has a real path, and whatever manifests are looked
for, a search from there that ends finds a directory. -/
theorem exists_project_of_existingPath (hw : w.WellNamed) (hfit : w.NamesFit)
    (hcurrent : w.top.DirectoryAt w.current) (h : w.existingPath path = .ok target) :
    ∃ place, w.resolve target = .ok (pathOf place) ∧ ∀ manifests p,
      w.findProjectRoot manifests target = .ok p → ∃ root, p = pathOf root ∧
        w.ProjectTop manifests (w.searchStart (pathOf place)) root ∧ w.top.DirectoryAt root := by
  obtain ⟨hexpand, hexists⟩ := existingPath_eq_ok_iff.mp h
  obtain ⟨e, he, hlink⟩ := exists_entry_of_exists hw hfit hcurrent hexists
  obtain ⟨place, hreal, hat, hnames, -⟩ := exists_real hw hfit he hlink
  have hresolve : w.resolve target = .ok (pathOf place) := by
    rw [resolve, expandHome_expanded hexpand]
    exact hreal
  refine ⟨place, hresolve, fun manifests p hp => ?_⟩
  have hanchor : (pathOf place).anchor = .top := rfl
  rw [findProjectRoot, hresolve] at hp
  obtain ⟨root, hroot, htop⟩ := exists_projectTop hanchor (mapError_eq_ok_iff.mp hp)
  exact ⟨root, hroot, htop,
    htop.directoryAt (fun s hs => (hnames s hs).2) hat hlink (Entry.directoryAt_nil hcurrent)⟩

/-- Only a name that is too long stops the search for the project of what has a real path. -/
theorem fault_of_findProjectRoot {manifests : List String} {real : Path} {failure : SearchError}
    (hreal : w.resolve target = .ok real)
    (h : w.findProjectRoot manifests target = .error failure) :
    ∃ fault, failure = .file fault ∧ fault.error = .nameTooLong := by
  rw [findProjectRoot, hreal] at h
  obtain ⟨fault, hfault, rfl⟩ := mapError_eq_error_iff.mp h
  exact ⟨fault, rfl, error_of_projectRootAbove hfault⟩

end Workspace

namespace CommandLine

variable {w : Workspace} {terminal : Bool} {request : ScanRequest} {target : Path}

/-! ### Scans with and without settings -/

/-- A scan without settings ends with what is said about that. -/
theorem result_performScan_of_settings_error {error : ProjectError}
    (htarget : w.existingPath request.path = .ok target)
    (hsettings : w.settingsFor target = .error error) :
    (performScan w terminal request).result = (refusal error).result := by
  refine Logged.result_recover_error ?_ refusal
  rw [reportedScan, Logged.result_bind, Workspace.result_runProject htarget, hsettings]
  rfl

/-- What stops the reader of a configuration ends a scan. -/
theorem result_refusal_of_stops {failure : ConfigFailure} (h : failure.Stops) :
    (refusal (.config failure)).result = .error (.config failure) := by
  cases failure with
  | config e => exact absurd rfl (h e)
  | decode _ | scalar _ | path _ => rfl

/-- A run without a result is reported on. -/
theorem exists_result_runRefusal (error : RunError) :
    ∃ done, (runRefusal error).result = .ok done := by
  unfold runRefusal
  split
  · exact ⟨_, rfl⟩
  · exact ⟨_, rfl⟩

/-- A scan with settings ends with a status. -/
theorem exists_result_performScan {c : Config}
    (htarget : w.existingPath request.path = .ok target)
    (hsettings : w.settingsFor target = .ok c) :
    ∃ done, (performScan w terminal request).result = .ok done := by
  cases hrun : (w.runProject request.path request.policy).result with
  | ok run => exact ⟨_, performScan_of_runProject terminal hrun⟩
  | error error =>
    have hscan : (reportedScan w terminal request).result = .error error := by
      rw [reportedScan, Logged.result_bind, hrun]
      rfl
    rw [Workspace.result_runProject htarget, hsettings] at hrun
    obtain ⟨fault, -, rfl⟩ := mapError_eq_error_iff.mp (map_eq_error_iff.mp hrun)
    obtain ⟨done, hdone⟩ := exists_result_runRefusal fault
    exact ⟨done, (Logged.result_recover_error hscan refusal).trans hdone⟩

end CommandLine

/-- What comes of the configuration of a project, and of a scan that reads it first. A configuration
file is reported on unless its bytes are refused: they are no text, a scalar among them is refused by
the loader, or a number that is too long to be written stands for a text. These end the scan without
a status. What is wrong with the configuration ends it with a status and a message. -/
structure SettingsReported (w : Workspace) (root : Place)
    (scan : Except CommandLine.Abort CommandLine.End) : Prop where
  reported : ∀ content, w.entry (Workspace.pathOf (root ++ [configFileName])) =
    .ok (.file content) → (Config.Reported (w.loadConfig (Workspace.pathOf root)) ↔
      ∀ failure, ¬Config.Refused w.readers.load content failure)
  ends : ∀ content, w.entry (Workspace.pathOf (root ++ [configFileName])) = .ok (.file content) →
    ((∃ done, scan = .ok done) ↔ ∀ failure, ¬Config.Refused w.readers.load content failure)
  refused : ∀ content, w.entry (Workspace.pathOf (root ++ [configFileName])) =
    .ok (.file content) → ∀ failure, Config.Refused w.readers.load content failure →
      w.loadConfig (Workspace.pathOf root) = .error failure ∧ scan = .error (.config failure)
  directory : ∀ es, w.entry (Workspace.pathOf (root ++ [configFileName])) = .ok (.directory es) →
    ∃ e, w.loadConfig (Workspace.pathOf root) = .error (.config e)
  missing : w.top.at? (root ++ [configFileName]) = none →
    w.loadConfig (Workspace.pathOf root) = .ok { root := Workspace.pathOf root }
  wrong : ∀ e, w.loadConfig (Workspace.pathOf root) = .error (.config e) →
    scan = .ok { exit := 1, message := "error: " ++ e.message ++ "\n" }

/-- What comes of the configuration of a project that was found. -/
theorem settingsReported_of_findProjectRoot {w : Workspace} (hw : w.WellNamed) (hfit : w.NamesFit)
    {request : CommandLine.ScanRequest} {target : Path}
    (htarget : w.existingPath request.path = .ok target) {root : Place}
    (hroot : w.findProjectRoot defaultManifests target = .ok (Workspace.pathOf root))
    (hdirectory : w.top.DirectoryAt root) (terminal : Bool) :
    SettingsReported w root (CommandLine.performScan w terminal request).result := by
  have hsettings : w.settingsFor target =
      (w.loadConfig (Workspace.pathOf root)).mapError .config := by
    rw [Workspace.settingsFor, hroot]
  have hwrong : ∀ e, w.loadConfig (Workspace.pathOf root) = .error (.config e) →
      (CommandLine.performScan w terminal request).result =
        .ok { exit := 1, message := "error: " ++ e.message ++ "\n" } := by
    intro e he
    rw [he] at hsettings
    exact CommandLine.result_performScan_of_settings_error htarget hsettings
  have hload := fun {content : List UInt8} {failure : ConfigFailure} hcontent hstops =>
    @Workspace.loadConfig_eq_error_iff w root hw hfit hdirectory content hcontent failure hstops
  have hrefused : ∀ content, w.entry (Workspace.pathOf (root ++ [configFileName])) =
      .ok (.file content) → ∀ failure, Config.Refused w.readers.load content failure →
        w.loadConfig (Workspace.pathOf root) = .error failure ∧
        (CommandLine.performScan w terminal request).result = .error (.config failure) := by
    intro content hcontent failure h
    have hfailure := (hload hcontent h.stops).mpr h
    rw [hfailure] at hsettings
    rw [CommandLine.result_performScan_of_settings_error htarget hsettings]
    exact ⟨hfailure, CommandLine.result_refusal_of_stops h.stops⟩
  have hreported : ∀ content, w.entry (Workspace.pathOf (root ++ [configFileName])) =
      .ok (.file content) → (Config.Reported (w.loadConfig (Workspace.pathOf root)) ↔
        ∀ failure, ¬Config.Refused w.readers.load content failure) := by
    intro content hcontent
    rw [Config.reported_iff]
    constructor
    · intro h failure hrefuses
      exact h failure hrefuses.stops (hrefused content hcontent failure hrefuses).1
    · intro h failure hstops hfailure
      exact h failure ((hload hcontent hstops).mp hfailure)
  exact {
    reported := hreported
    ends := by
      intro content hcontent
      constructor
      · rintro ⟨done, hdone⟩ failure h
        cases hdone.symm.trans (hrefused content hcontent failure h).2
      · intro h
        rcases (hreported content hcontent).mpr h with ⟨c, hc⟩ | ⟨e, he⟩
        · rw [hc] at hsettings
          exact CommandLine.exists_result_performScan htarget hsettings
        · exact ⟨_, hwrong e he⟩
    refused := hrefused
    directory := fun es hes => Workspace.exists_loadConfig_of_directory hw hfit hdirectory hes
    missing := fun hnone => Workspace.loadConfig_of_missing hw hfit hdirectory hnone
    wrong := hwrong }

/-- **A bad configuration is reported** by a scan of something that is there, whatever loader reads
it, unless the bytes of the configuration file are refused. A scan that finds no project, because a
name is too long to be looked up, has no configuration to read. -/
theorem settings_reported_iff {w : Workspace} (hw : w.WellNamed) (hfit : w.NamesFit)
    (hcurrent : w.top.DirectoryAt w.current) {request : CommandLine.ScanRequest} {target : Path}
    (htarget : w.existingPath request.path = .ok target) (terminal : Bool) :
    (∃ root, w.findProjectRoot defaultManifests target = .ok (Workspace.pathOf root) ∧
      SettingsReported w root (CommandLine.performScan w terminal request).result) ∨
    ∃ fault, w.findProjectRoot defaultManifests target = .error (.file fault) ∧
      fault.error = .nameTooLong ∧
      (CommandLine.performScan w terminal request).result = .error (.file fault) := by
  obtain ⟨place, hreal, hproject⟩ :=
    Workspace.exists_project_of_existingPath hw hfit hcurrent htarget
  cases hsearch : w.findProjectRoot defaultManifests target with
  | ok p =>
    obtain ⟨root, rfl, -, hdirectory⟩ := hproject defaultManifests p hsearch
    exact Or.inl ⟨root, rfl,
      settingsReported_of_findProjectRoot hw hfit htarget hsearch hdirectory terminal⟩
  | error failure =>
    obtain ⟨fault, rfl, hlong⟩ := Workspace.fault_of_findProjectRoot hreal hsearch
    have hsettings : w.settingsFor target = .error (.file fault) := by
      rw [Workspace.settingsFor, hsearch]
    exact Or.inr ⟨fault, rfl, hlong,
      CommandLine.result_performScan_of_settings_error htarget hsettings⟩

/-! ### A project with a configuration file -/

/-- A project of a configuration file. -/
def configuredProject (content : List UInt8) : Workspace :=
  { top := .directory [("p", .directory [("package.json", .file []),
      (".aiready.yml", .file content)])]
    current := []
    home := [] }

theorem namesFit_configuredProject (content : List UInt8) :
    (configuredProject content).NamesFit := by
  have hnames : (configuredProject content).top.names = ["p", "package.json", ".aiready.yml"] := rfl
  rw [Workspace.NamesFit, hnames]
  decide +kernel

/-- Nothing is wrong with an empty configuration file, and one that is no text ends a scan. -/
theorem settings_reported_iff_configuredProject :
    Config.Reported ((configuredProject []).loadConfig ⟨.top, ["p"]⟩) ∧
      (CommandLine.performScan (configuredProject [0xff]) false { path := "/p" }).result =
        .error (.config (.decode ⟨0, 0xff, 0, .start⟩)) := by
  have htarget : ∀ content, (configuredProject content).existingPath
      ({ path := "/p" } : CommandLine.ScanRequest).path = .ok ⟨.top, ["p"]⟩ := fun _ => rfl
  have hroot : ∀ content, (configuredProject content).findProjectRoot defaultManifests
      ⟨.top, ["p"]⟩ = .ok (Workspace.pathOf ["p"]) := fun _ => rfl
  have hsettings : ∀ content, SettingsReported (configuredProject content) ["p"]
      (CommandLine.performScan (configuredProject content) false { path := "/p" }).result := by
    intro content
    obtain ⟨root, hfound, hsettings⟩ | ⟨fault, hfault, -⟩ :=
      settings_reported_iff (w := configuredProject content) (by rw [Workspace.WellNamed]; rfl)
        (namesFit_configuredProject content) ⟨_, rfl⟩ (htarget content) false
    · obtain rfl : ["p"] = root :=
        congrArg Path.segments (Except.ok.inj ((hroot content).symm.trans hfound))
      exact hsettings
    · cases (hroot content).symm.trans hfault
  constructor
  · have hempty : Text.Utf8.decode [] = .ok [] := by decide +kernel
    refine ((hsettings []).reported [] rfl).mpr fun failure h => ?_
    cases h with
    | noText h => cases hempty.symm.trans h
    | text h hf =>
      obtain rfl := Except.ok.inj (hempty.symm.trans h)
      exact absurd hf.1 (by decide)
  · exact ((hsettings [0xff]).refused [0xff] rfl _ (.noText (by decide +kernel))).2

end Preflight
