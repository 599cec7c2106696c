import Preflight.Proofs.FileTree.Names
import Preflight.Proofs.Log.Results

/-!
# The project of a scan

A scan finds its project by looking upwards, so the target is at the top of the project or below
it. What is below the top of a project is called by its names from there, put together with
slashes, and these lead back to it.

## Main definitions

* `Workspace.searchStart`: where the search for a project starts.

## Main results

* `Workspace.projectRootAbove_eq_ok_iff`: the steps of a search for a project.
* `Workspace.projectRootAbove_isPrefix`: the project is above the target.
* `Workspace.scan_eq_ok_iff`, `scan_directory`: the steps of a scan.
* `Workspace.scan_project`, `scan_directory_places`: where the project and the target are.
* `Path.seenFrom_pathOf_append`, `Path.join_ofString_intercalate`: what a place is called.
-/

namespace Preflight

theorem isPrefix_of_mem_placesAbove {p q : Place} (h : q ∈ placesAbove p) : q <+: p := by
  induction p generalizing q with
  | nil =>
    rw [placesAbove, List.mem_singleton] at h
    exact h ▸ List.prefix_rfl
  | cons s rest ih =>
    rw [placesAbove, List.mem_append, List.mem_map, List.mem_singleton] at h
    rcases h with ⟨above, habove, rfl⟩ | rfl
    · exact (List.prefix_cons_inj s).mpr (ih habove)
    · exact List.nil_prefix

namespace Path

/-- What a place below a directory is called from there. -/
theorem seenFrom_pathOf_append {root : Path} (htop : root.anchor = .top) {below : Place}
    (hne : below ≠ []) :
    (Workspace.pathOf (root.segments ++ below)).seenFrom root = "/".intercalate below := by
  obtain ⟨s, rest, rfl⟩ := List.exists_cons_of_ne_nil hne
  rw [seenFrom, relativeTo?, Workspace.pathOf, if_pos htop.symm, dropSegments?_append]
  exact String.empty_append

/-- What a place below a directory is called from there leads back to it. -/
theorem join_ofString_intercalate {root : Path} (htop : root.anchor = .top) {below : Place}
    (hne : below ≠ []) (hnames : ∀ s ∈ below, isFileName s = true) :
    root.join (ofString ("/".intercalate below)) =
      Workspace.pathOf (root.segments ++ below) := by
  obtain ⟨s, rest, rfl⟩ := List.exists_cons_of_ne_nil hne
  have hread : ofString (text ⟨.here, s :: rest⟩) = ⟨.here, s :: rest⟩ := ofString_text _ hnames
  rw [show text ⟨.here, s :: rest⟩ = "" ++ "/".intercalate (s :: rest) from rfl,
    String.empty_append] at hread
  obtain ⟨anchor, segments⟩ := root
  subst htop
  rw [hread]
  rfl

theorem isSome_relativeTo?_iff {p root : Path} (h : p.anchor = root.anchor) :
    (p.relativeTo? root).isSome = true ↔ root.segments <+: p.segments := by
  rw [relativeTo?, if_pos h, Option.isSome_map, Option.isSome_iff_exists]
  exact exists_congr fun rest => dropSegments?_eq_some.trans eq_comm

end Path

namespace Workspace

variable {w : Workspace}

/-- Where the search for the project of a real path starts. -/
def searchStart (w : Workspace) (real : Path) : Place :=
  if w.isFile real then real.segments.dropLast else real.segments

/-- The steps of a search for a project. -/
theorem projectRootAbove_eq_ok_iff {manifests : List String} {real root : Path}
    (htop : real.anchor = .top) :
    w.projectRootAbove manifests real = .ok root ↔
      w.entry real ≠ .error .nameTooLong ∧ ∃ found,
        ((placesAbove (w.searchStart real)).map pathOf).findM? (w.hasManifest manifests) =
          .ok found ∧ root = found.getD (pathOf (w.searchStart real)) := by
  obtain ⟨anchor, segments⟩ := real
  subst htop
  have horigin : (if (if w.isFile ⟨.top, segments⟩ then some (⟨.top, segments⟩ : Path)
      else none).isSome then Path.parent ⟨.top, segments⟩ else ⟨.top, segments⟩) =
        pathOf (w.searchStart ⟨.top, segments⟩) := by
    rw [searchStart]
    by_cases hfile : w.isFile ⟨.top, segments⟩ = true
    · rw [if_pos hfile, if_pos hfile]
      rfl
    · rw [if_neg hfile, if_neg hfile]
      rfl
  simp only [projectRootAbove, bind_eq_ok_iff, firstFile?_singleton_eq_ok_iff]
  constructor
  · rintro ⟨file, ⟨hshort, rfl⟩, found, hfound, hroot⟩
    rw [horigin] at hfound hroot
    exact ⟨hshort, found, hfound, (Except.ok.inj hroot).symm⟩
  · rintro ⟨hshort, found, hfound, rfl⟩
    refine ⟨_, ⟨hshort, rfl⟩, found, ?_, ?_⟩
    · rw [horigin]
      exact hfound
    · rw [horigin]
      rfl

/-- Only a name that is too long stops a search for a project. -/
theorem error_of_projectRootAbove {manifests : List String} {real : Path} {fault : FileFault}
    (h : w.projectRootAbove manifests real = .error fault) : fault.error = .nameTooLong := by
  simp only [projectRootAbove, bind_eq_error_iff] at h
  rcases h with h | ⟨file, -, h | ⟨found, -, h⟩⟩
  · exact error_of_firstFile? h
  · obtain ⟨directory, -, hmanifest⟩ := of_findM?_eq_error h
    exact error_of_firstFile? (map_eq_error_iff.mp hmanifest)
  · cases h

theorem searchStart_isPrefix (w : Workspace) (real : Path) :
    w.searchStart real <+: real.segments := by
  rw [searchStart]
  split
  · exact List.dropLast_prefix _
  · exact List.prefix_rfl

/-- The project of a target is above it. -/
theorem projectRootAbove_isPrefix {manifests : List String} {real root : Path}
    (htop : real.anchor = .top) (h : w.projectRootAbove manifests real = .ok root) :
    root.anchor = .top ∧ root.segments <+: real.segments := by
  obtain ⟨-, found, hfound, rfl⟩ := (projectRootAbove_eq_ok_iff htop).mp h
  cases found with
  | none => exact ⟨rfl, w.searchStart_isPrefix real⟩
  | some root =>
    obtain ⟨-, before, after, hsplit, -⟩ := of_findM?_eq_some hfound
    have hmem : root ∈ (placesAbove (w.searchStart real)).map pathOf :=
      hsplit ▸ List.mem_append_right _ (List.mem_cons_self ..)
    obtain ⟨place, hplace, rfl⟩ := List.mem_map.mp hmem
    exact ⟨rfl, (isPrefix_of_mem_placesAbove hplace).trans (w.searchStart_isPrefix real)⟩

/-- The steps of a scan. -/
theorem scan_eq_ok_iff {settings : ScanSettings} {target : String} {found : ScanTarget} :
    w.scan settings target = .ok found ↔
      ∃ real, w.resolve (Path.ofString target) = .ok real ∧ w.exists? real = .ok true ∧
        w.scanFrom settings real = .ok found := by
  rw [scan]
  cases w.resolve (Path.ofString target) with
  | error e => simp
  | ok real =>
    cases hexists : w.exists? real with
    | error e => simp [hexists]
    | ok b => cases b <;> simp [hexists]

theorem pathOf_segments {p : Path} (htop : p.anchor = .top) : pathOf p.segments = p := by
  obtain ⟨anchor, segments⟩ := p
  subst htop
  rfl

/-- The project of a scan is at a real path, and the target at one below it. -/
theorem scan_project {settings : ScanSettings} {target : String} {found : ScanTarget}
    (h : w.scan settings target = .ok found) :
    ∃ real, w.resolve (Path.ofString target) = .ok real ∧ real.anchor = .top ∧
      found.projectRoot.anchor = .top ∧ (∀ s ∈ found.projectRoot.segments, ¬isDirection s) ∧
      ∃ down, found.projectRoot.segments ++ down = real.segments := by
  obtain ⟨real, hreal, hproject, -⟩ := scan_ok h
  obtain ⟨hanchor, hdirections⟩ := real_of_resolve hreal
  obtain ⟨htop, habove⟩ := projectRootAbove_isPrefix hanchor hproject
  exact ⟨real, hreal, hanchor, htop, fun s hs => hdirections s (habove.subset hs), habove⟩

/-- What a scan makes of a directory. -/
theorem scan_directory {settings : ScanSettings} {target : String} {found : ScanTarget}
    (h : w.scan settings target = .ok found) (hdirectory : w.scansDirectory target = true)
    {rules : List IgnoreRule}
    (hrules : w.ignoreRules found.projectRoot settings.excludePaths = .ok rules) :
    w.resolve (Path.ofString target) = .ok found.scanRoot ∧ w.isFile found.scanRoot = false ∧
      w.projectRootAbove settings.manifestFiles found.scanRoot = .ok found.projectRoot ∧
      found.files = (w.sourceFiles ⟨rules, settings.extensions, false⟩
        found.projectRoot.segments found.scanRoot.segments).map pathOf := by
  obtain ⟨real, hreal, -, hscan⟩ := scan_eq_ok_iff.mp h
  rw [scansDirectory, hreal, Bool.not_eq_true'] at hdirectory
  rw [scanFrom] at hscan
  split at hscan
  · cases hscan
  · next root hroot =>
    rw [hdirectory, if_neg Bool.false_ne_true] at hscan
    split at hscan
    · cases hscan
    · next rules' hrules' =>
      obtain rfl := Except.ok.inj hscan
      obtain rfl := Except.ok.inj (hrules.symm.trans hrules')
      exact ⟨hreal, hdirectory, hroot, rfl⟩

/-- Where the project and the target of a scan of a directory are: the one above the other, at real
paths. -/
theorem scan_directory_places {settings : ScanSettings} {target : String} {found : ScanTarget}
    (h : w.scan settings target = .ok found) (hdirectory : w.scansDirectory target = true)
    {rules : List IgnoreRule}
    (hrules : w.ignoreRules found.projectRoot settings.excludePaths = .ok rules) :
    found.projectRoot.anchor = .top ∧ found.scanRoot.anchor = .top ∧
      (∀ s ∈ found.projectRoot.segments, ¬isDirection s) ∧
      ∃ down, found.projectRoot.segments ++ down = found.scanRoot.segments := by
  obtain ⟨hreal, -⟩ := scan_directory h hdirectory hrules
  obtain ⟨real, hreal', hanchor, htop, hdirections, habove⟩ := scan_project h
  obtain rfl := Except.ok.inj (hreal.symm.trans hreal')
  exact ⟨htop, hanchor, hdirections, habove⟩

end Workspace

end Preflight
