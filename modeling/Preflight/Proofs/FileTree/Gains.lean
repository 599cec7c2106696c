import Preflight.Proofs.FileTree.Growth
import Preflight.Proofs.FileTree.Project

/-!
# A project that gains a file

After a file is put where nothing was, and as long as it mends no link, whatever could be read can
still be read, with the same content, and real paths are the same. A path that leads to a file now
led to the same file before, or to nothing.

## Main definitions

* `Workspace.withFile`: a file tree with a file put at a place.
* `Workspace.Gains`: a file tree that gained a file, with all links as they were.

## Main results

* `Workspace.Gains.entry_of_ok`, `readText_eq`: what was there is found and read.
* `Workspace.Gains.isFile_of_locate`: what is a file was one, or was missing.
* `Workspace.Gains.resolve_eq`: real paths.
-/

namespace Preflight

namespace Workspace

/-- A file tree with a file put at a place. -/
def withFile (w : Workspace) (place : Place) (content : List UInt8) : Workspace :=
  { w with top := Entry.put (.file content) place w.top }

/-- A file tree that gained a file at a place and the directories on the way to it, while no link
was mended. -/
structure Gains (w w' : Workspace) (new : Place) : Prop where
  grew : w.top.GrewBy w'.top new
  links : w.top.MendsNoLink w'.top
  linkCount : w'.top.linkCount = w.top.linkCount
  current : w'.current = w.current
  home : w'.home = w.home
  readers : w'.readers = w.readers

theorem gains_withFile {w : Workspace} {place : Place} {content : List UInt8}
    (hnew : w.top.at? place = none) (hlinks : w.top.MendsNoLink (w.withFile place content).top) :
    w.Gains (w.withFile place content) place where
  grew := Entry.put_grewBy hnew
  links := hlinks
  linkCount := Entry.linkCount_put hnew
  current := rfl
  home := rfl
  readers := rfl

/-! ### Where paths lead -/

section lookup

variable {w : Workspace} {p : Path} {e : Entry}

theorem exists_route_of_locate {place : Place} (hp : p.isAbsolute = true)
    (h : w.locate p = .ok place) :
    ∃ left, Route w.top linkBudget [] p.segments (.ok (place, left)) := by
  rw [locate_of_isAbsolute hp] at h
  exact exists_route_of_follow h

theorem route_of_locate_error {error : FileError} (hp : p.isAbsolute = true)
    (h : w.locate p = .error error) : Route w.top linkBudget [] p.segments (.error error) := by
  rw [locate_of_isAbsolute hp] at h
  exact exists_route_of_follow_error h

/-- Where a path leads there is something, if the tree has any directory. -/
theorem exists_entry_of_locate {place : Place} (hp : p.isAbsolute = true)
    (htop : w.top.DirectoryAt []) (h : w.locate p = .ok place) : ∃ e, w.entry p = .ok e := by
  obtain ⟨left, hroute⟩ := exists_route_of_locate hp h
  obtain ⟨-, e, he, -⟩ := hroute.realAt (Entry.realAt_nil htop)
  exact ⟨e, entry_eq_ok_iff.mpr ⟨place, h, he⟩⟩

end lookup

namespace Gains

variable {w w' : Workspace} {new : Place} {p : Path} {e : Entry}

/-- A path leads where it led, unless something was missing. -/
theorem locate_eq (h : w.Gains w' new) (hp : p.isAbsolute = true)
    (hfound : w.locate p ≠ .error .notFound) : w'.locate p = w.locate p := by
  rw [locate_of_isAbsolute hp] at hfound
  rw [locate_of_isAbsolute hp, locate_of_isAbsolute hp]
  obtain ⟨o, ho⟩ := exists_route w.top linkBudget [] p.segments
  rw [ho.follow_eq] at hfound
  rw [ho.follow_eq]
  refine (ho.grow h.grew rfl ?_).follow_eq
  rintro rfl
  exact hfound rfl

/-- What was found at a path is found there, though a directory may hold more. -/
theorem entry_of_ok (h : w.Gains w' new) (hp : p.isAbsolute = true) (he : w.entry p = .ok e) :
    ∃ e', w'.entry p = .ok e' ∧ e.SameKind e' := by
  obtain ⟨place, hplace, hat⟩ := entry_eq_ok_iff.mp he
  obtain ⟨e', hat', hkind⟩ := h.grew.kept hat
  refine ⟨e', entry_eq_ok_iff.mpr ⟨place, ?_, hat'⟩, hkind⟩
  rw [h.locate_eq hp (by rw [hplace]; exact nofun), hplace]

theorem entry_of_file (h : w.Gains w' new) (hp : p.isAbsolute = true) {content : List UInt8}
    (he : w.entry p = .ok (.file content)) : w'.entry p = .ok (.file content) := by
  obtain ⟨e', he', hkind⟩ := h.entry_of_ok hp he
  rw [he', hkind.eq_file]

theorem isFile (h : w.Gains w' new) (hp : p.isAbsolute = true) (hfile : w.isFile p = true) :
    w'.isFile p = true := by
  obtain ⟨content, he⟩ := isFile_iff.mp hfile
  exact isFile_iff.mpr ⟨content, h.entry_of_file hp he⟩

/-- What was a file is read as it was. -/
theorem readBytes_eq (h : w.Gains w' new) (hp : p.isAbsolute = true) (hfile : w.isFile p = true) :
    w'.readBytes p = w.readBytes p := by
  obtain ⟨content, he⟩ := isFile_iff.mp hfile
  rw [readBytes, readBytes, he, h.entry_of_file hp he]

theorem readText_eq (h : w.Gains w' new) (hp : p.isAbsolute = true) (hfile : w.isFile p = true) :
    w'.readText p = w.readText p := by
  rw [readText, readText, h.readBytes_eq hp hfile]

theorem readTextLenient_eq (h : w.Gains w' new) (hp : p.isAbsolute = true)
    (hfile : w.isFile p = true) : w'.readTextLenient p = w.readTextLenient p := by
  rw [readTextLenient, readTextLenient, h.readBytes_eq hp hfile]

/-! ### Real paths -/

theorem realThrough_eq (h : w.Gains w' new) (ofLink : Place → Place → String → Place × Bool)
    (place : Place) (segments : List String) :
    realThrough w'.top ofLink place segments = realThrough w.top ofLink place segments := by
  induction segments generalizing place with
  | nil => rfl
  | cons s rest ih =>
    rw [realThrough, realThrough, ih, ih]
    dsimp only
    split
    · rfl
    · split
      · rfl
      · split
        · next target hlink =>
          rw [h.grew.at?_eq_link_iff.mp hlink]
          dsimp only
          rw [ih]
        · next hlink =>
          split
          · next target hlink' => exact absurd (h.grew.at?_eq_link_iff.mpr hlink') (hlink target)
          · exact ih _

theorem realFrom_eq (h : w.Gains w' new) (depth : Nat) (active : List Place) (place : Place)
    (segments : List String) :
    realFrom w'.top depth active place segments = realFrom w.top depth active place segments := by
  induction depth generalizing active place segments with
  | zero => exact h.realThrough_eq _ place segments
  | succ depth ih =>
    rw [realFrom, realFrom, h.realThrough_eq]
    congr 1
    funext here there target
    rw [ih]

/-- Real paths are as they were. -/
theorem realPlace_eq (h : w.Gains w' new) (p : Path) : w'.realPlace p = w.realPlace p := by
  rw [realPlace, realPlace, h.linkCount, h.realFrom_eq, start, start, h.current]

theorem expandHome_eq (h : w.Gains w' new) (p : Path) : w'.expandHome p = w.expandHome p := by
  rw [expandHome, expandHome, h.home]

/-- A path of something has the real path it had. -/
theorem resolve_eq (h : w.Gains w' new) {real : Path} (hreal : w.resolve p = .ok real)
    (he : w.entry real = .ok e) : w'.resolve p = .ok real := by
  obtain ⟨e', he', -⟩ := h.entry_of_ok (Path.isAbsolute_of_anchor (real_of_resolve hreal).1) he
  rw [resolve] at hreal ⊢
  rw [h.expandHome_eq]
  cases hhome : w.expandHome p with
  | error f => rw [hhome] at hreal; cases hreal
  | ok home =>
    rw [hhome] at hreal
    dsimp only at hreal ⊢
    rw [realPath] at hreal ⊢
    rw [h.realPlace_eq]
    split at hreal
    · cases hreal
    · next hnull =>
      have hplace : w.realPlace home = real := by
        dsimp only at hreal
        split at hreal
        · cases hreal
        · exact Except.ok.inj hreal
      rw [if_neg hnull, hplace]
      dsimp only
      rw [he']

/-! ### Files that are there -/

theorem isFile_eq (h : w.Gains w' new) (hp : p.isAbsolute = true) (he : w.entry p = .ok e) :
    w'.isFile p = w.isFile p := by
  obtain ⟨e', he', hkind⟩ := h.entry_of_ok hp he
  rw [Workspace.isFile, Workspace.isFile, he, he']
  exact hkind.isFile_eq.symm

/-- A path that leads to a file led to it, or to nothing. -/
theorem isFile_of_locate (h : w.Gains w' new) (hp : p.isAbsolute = true)
    (htop : w.top.DirectoryAt []) (hfound : w.locate p ≠ .error .notFound)
    (hfile : w'.isFile p = true) : w.isFile p = true := by
  obtain ⟨content, he'⟩ := isFile_iff.mp hfile
  obtain ⟨place, hplace, -⟩ := entry_eq_ok_iff.mp he'
  rw [h.locate_eq hp hfound] at hplace
  obtain ⟨e, he⟩ := exists_entry_of_locate hp htop hplace
  rwa [h.isFile_eq hp he] at hfile

end Gains

end Workspace

end Preflight
