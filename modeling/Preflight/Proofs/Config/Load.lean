import Preflight.Proofs.Config.Failures
import Preflight.Proofs.FileTree.ProjectTop

/-!
# Loading a configuration

The configuration of a project is read from the file at its top, which may be a link to a file
elsewhere. What comes of that depends on what the file holds and on nothing else.

## Main results

* `Workspace.loadConfig_eq_error_iff`: when the file stops the reader.
* `Workspace.exists_loadConfig_of_directory`, `loadConfig_of_missing`: what is made of a directory
  in its place, and of nothing there.
* `Workspace.exists_root_of_loadConfig`: the directory that settings belong to.
-/

namespace Preflight.Workspace

variable {w : Workspace} {root place : Place} {e : Entry}

/-! ### Real paths -/

theorem expandHome_of_isAbsolute {p : Path} (h : p.isAbsolute = true) : w.expandHome p = .ok p := by
  obtain ⟨anchor, segments⟩ := p
  cases anchor with
  | here => cases h
  | top | doubled => rfl

theorem pathOf_child {name : String} (hname : name ≠ "") :
    (pathOf place).child name = pathOf (place ++ [name]) := by
  rw [Path.child, if_neg hname]
  rfl

/-- There is no link on the way to what is there. -/
theorem at?_ne_link_of_isPrefix (h : w.top.at? place = some e) (hlink : e.isLink = false)
    {q : Place} (hq : q <+: place) (target : String) : w.top.at? q ≠ some (.link target) := by
  intro hqlink
  obtain ⟨down, rfl⟩ := hq
  cases down with
  | nil =>
    rw [List.append_nil, hqlink, Option.some.injEq] at h
    subst h
    cases hlink
  | cons s rest =>
    obtain ⟨es, hes⟩ := Entry.directoryAt_of_at?_append h
    cases hes.symm.trans hqlink

/-- The places above what is there are their own real paths. -/
theorem realPath_of_isPrefix (hw : w.WellNamed) (hfit : w.NamesFit) (h : w.top.at? place = some e)
    (hlink : e.isLink = false) {q : Place} (hq : q <+: place) :
    w.realPath (pathOf q) = .ok (pathOf q) := by
  refine realPath_pathOf (fun s hs => ?_) (fun s hs => ?_) fun p hp =>
    at?_ne_link_of_isPrefix h hlink (hp.trans hq)
  · exact (hfit.isPlain_of_at? hw h s (hq.subset hs)).1
  · exact (hfit s (Entry.mem_names_of_at? h s (hq.subset hs))).2

/-! ### The configuration file -/

theorem isDirectory_pathOf (hw : w.WellNamed) (hfit : w.NamesFit) (h : w.top.DirectoryAt root) :
    w.isDirectory (pathOf root) = true := by
  obtain ⟨es, hes⟩ := h
  exact isDirectory_iff.mpr ⟨es, entry_pathOf (hfit.isPlain_of_at? hw hes) hes rfl⟩

/-- The configuration file of a directory is the one in it. -/
theorem configFile_eq (hw : w.WellNamed) (hfit : w.NamesFit) (h : w.top.DirectoryAt root) :
    w.configFile (pathOf root) = w.realPath (pathOf (root ++ [configFileName])) := by
  rw [configFile, expandHome_of_isAbsolute rfl]
  dsimp only
  rw [if_pos (isDirectory_pathOf hw hfit h), pathOf_child (by decide)]

/-- Where no link is in its place, the configuration file has no other real path. -/
theorem configFile_of_ne_link (hw : w.WellNamed) (hfit : w.NamesFit) (h : w.top.DirectoryAt root)
    (hlink : ∀ target, w.top.at? (root ++ [configFileName]) ≠ some (.link target)) :
    w.configFile (pathOf root) = .ok (pathOf (root ++ [configFileName])) := by
  obtain ⟨es, hes⟩ := h
  rw [configFile_eq hw hfit ⟨es, hes⟩]
  have hplain := hfit.isPlain_of_at? hw hes
  refine realPath_pathOf (fun s hs => ?_) (fun s hs => ?_) fun q hq => ?_
  · rcases List.mem_append.mp hs with hs | hs
    · exact (hplain s hs).1
    · rw [List.mem_singleton.mp hs, isDirection]
      decide
  · rcases List.mem_append.mp hs with hs | hs
    · exact (hfit s (Entry.mem_names_of_at? hes s hs)).2
    · rw [List.mem_singleton.mp hs]
      decide
  · rcases List.prefix_concat_iff.mp hq with rfl | hq
    · exact hlink
    · exact at?_ne_link_of_isPrefix hes rfl hq

/-- Settings belong to the directory of the file they are read from. -/
theorem exists_root_of_loadConfig {p : Path} {c : Config} (h : w.loadConfig p = .ok c) :
    ∃ file, w.configFile p = .ok file ∧ w.realPath file.parent = .ok c.root := by
  rw [loadConfig] at h
  cases hfile : w.configFile p with
  | error e =>
    rw [hfile] at h
    cases h
  | ok file =>
    rw [hfile] at h
    dsimp only at h
    refine ⟨file, rfl, ?_⟩
    cases hparent : w.realPath file.parent with
    | error e =>
      rw [hparent] at h
      cases h
    | ok root =>
      rw [hparent] at h
      dsimp only at h
      refine congrArg Except.ok ?_
      split at h
      · rw [← Except.ok.inj h]
      · split at h
        · exact (Config.root_of_ofText h).symm
        · cases h
        · cases h

/-- Where no link is in the place of the configuration file, settings belong to the project they are
loaded for. -/
theorem root_of_loadConfig (hw : w.WellNamed) (hfit : w.NamesFit) (hroot : w.top.DirectoryAt root)
    (hlink : ∀ target, w.top.at? (root ++ [configFileName]) ≠ some (.link target)) {c : Config}
    (h : w.loadConfig (pathOf root) = .ok c) : c.root = pathOf root := by
  obtain ⟨file, hfile, hparent⟩ := exists_root_of_loadConfig h
  obtain rfl := Except.ok.inj ((configFile_of_ne_link hw hfit hroot hlink).symm.trans hfile)
  obtain ⟨es, hes⟩ := hroot
  rw [Path.parent, pathOf, List.dropLast_concat] at hparent
  have hreal : w.realPath (pathOf root) = .ok (pathOf root) :=
    realPath_of_isPrefix hw hfit hes rfl List.prefix_rfl
  exact (Except.ok.inj (hreal.symm.trans hparent)).symm

/-- Where the configuration file is, if something is there, and what comes of it. -/
theorem loadConfig_of_entry (hw : w.WellNamed) (hfit : w.NamesFit) (hroot : w.top.DirectoryAt root)
    (he : w.entry (pathOf (root ++ [configFileName])) = .ok e) (hlink : e.isLink = false) :
    ∃ file, w.entry (pathOf file) = .ok e ∧ w.loadConfig (pathOf root) =
      match w.readText (pathOf file) with
      | .ok text => Config.ofText w.readers.load (pathOf file).parent (pathOf file).name text
      | .error (.file f) => .error (.config (.unreadable (pathOf file).name f))
      | .error (.decode e) => .error (.decode e) := by
  obtain ⟨file, hreal, hat, -, hentry⟩ := exists_real hw hfit he hlink
  have hparent : w.realPath (pathOf file).parent = .ok (pathOf file).parent :=
    realPath_of_isPrefix hw hfit hat hlink (List.dropLast_prefix file)
  refine ⟨file, hentry, ?_⟩
  rw [loadConfig, configFile_eq hw hfit hroot, hreal]
  dsimp only
  rw [hparent]
  dsimp only
  rewrite [hentry]
  rfl

/-- **A configuration file stops the reader** when its bytes are refused, and so they say why. -/
theorem loadConfig_eq_error_iff (hw : w.WellNamed) (hfit : w.NamesFit)
    (hroot : w.top.DirectoryAt root) {content : List UInt8}
    (he : w.entry (pathOf (root ++ [configFileName])) = .ok (.file content))
    {failure : ConfigFailure} (hstops : failure.Stops) :
    w.loadConfig (pathOf root) = .error failure ↔
      Config.Refused w.readers.load content failure := by
  obtain ⟨file, hentry, hload⟩ := loadConfig_of_entry hw hfit hroot he rfl
  rw [hload, readText, readBytes, hentry]
  dsimp only
  cases hdecode : Text.Utf8.decode content with
  | error e =>
    constructor
    · intro h
      obtain rfl := Except.error.inj h
      exact .noText hdecode
    · intro h
      cases h with
      | noText h => rw [Except.error.inj (hdecode.symm.trans h)]
      | text h _ => cases hdecode.symm.trans h
  | ok cs =>
    dsimp only
    rw [Config.ofText_eq_error_iff hstops]
    constructor
    · rintro ⟨f, rfl, hf⟩
      exact .text hdecode hf
    · intro h
      cases h with
      | noText h => cases hdecode.symm.trans h
      | @text cs' h f hf =>
        obtain rfl := Except.ok.inj (hdecode.symm.trans h)
        exact ⟨f, rfl, hf⟩

/-- A directory in the place of the configuration file is an error of the configuration. -/
theorem exists_loadConfig_of_directory (hw : w.WellNamed) (hfit : w.NamesFit)
    (hroot : w.top.DirectoryAt root) {es : List (String × Entry)}
    (he : w.entry (pathOf (root ++ [configFileName])) = .ok (.directory es)) :
    ∃ error, w.loadConfig (pathOf root) = .error (.config error) := by
  obtain ⟨file, hentry, hload⟩ := loadConfig_of_entry hw hfit hroot he rfl
  rw [hload, readText, readBytes, hentry]
  exact ⟨_, rfl⟩

/-- Without a configuration file there are the settings that are not configured. -/
theorem loadConfig_of_missing (hw : w.WellNamed) (hfit : w.NamesFit)
    (hroot : w.top.DirectoryAt root) (hnone : w.top.at? (root ++ [configFileName]) = none) :
    w.loadConfig (pathOf root) = .ok { root := pathOf root } := by
  obtain ⟨es, hes⟩ := hroot
  have hplain := hfit.isPlain_of_at? hw hes
  have hfile := configFile_of_ne_link hw hfit ⟨es, hes⟩ fun target h => by cases hnone.symm.trans h
  have hparent : w.realPath (pathOf (root ++ [configFileName])).parent = .ok (pathOf root) := by
    rw [Path.parent, pathOf, List.dropLast_concat]
    exact realPath_of_isPrefix hw hfit hes rfl List.prefix_rfl
  have hroute : Route w.top linkBudget [] (root ++ [configFileName]) (.error .notFound) :=
    (Route.straight hplain hes rfl linkBudget).append
      (.missing ⟨es, hes⟩ ⟨by rw [isDirection]; decide, by decide⟩ hnone)
  have hentry : w.entry (pathOf (root ++ [configFileName])) = .error .notFound := by
    rw [entry, locate_of_isAbsolute rfl, pathOf, hroute.follow_eq]
    rfl
  rw [loadConfig, hfile]
  dsimp only
  rw [hparent]
  dsimp only
  rw [hentry]

end Preflight.Workspace
