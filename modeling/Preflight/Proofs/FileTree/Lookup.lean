import Preflight.FileTree.Lookup

/-!
# What is at a path

A path leads to a place or nowhere, and what is at the path is what the tree holds there.

## Main results

* `Workspace.entry_eq_ok_iff`, `entry_eq_error_iff`: what is at a path, and why nothing is.
* `Workspace.isFile_iff`, `isDirectory_iff`, `exists?_eq_true_iff`: the same for what is asked about
  it.
* `Workspace.firstFile?_cons_of_isFile`, `firstFile?_cons_of_isFile_false`: a search for a file.
-/

namespace Preflight

theorem Path.isAbsolute_of_anchor {p : Path} (h : p.anchor = .top) : p.isAbsolute = true := by
  rw [isAbsolute, h]
  rfl

namespace Workspace

variable {w : Workspace} {p : Path} {e : Entry}

theorem locate_of_isAbsolute (hp : p.isAbsolute = true) :
    w.locate p = follow w.top linkBudget [] p.segments := by
  rw [locate, start, if_pos hp]

theorem entry_eq_ok_iff :
    w.entry p = .ok e ↔ ∃ place, w.locate p = .ok place ∧ w.top.at? place = some e := by
  rw [entry]
  cases w.locate p with
  | error f => simp
  | ok place =>
    cases hat : w.top.at? place with
    | none => simp [hat]
    | some c => simp [hat]

theorem entry_eq_error_iff {f : FileError} (hf : f ≠ .notFound) :
    w.entry p = .error f ↔ w.locate p = .error f := by
  rw [entry]
  cases w.locate p with
  | error f' => simp
  | ok place =>
    cases hat : w.top.at? place with
    | none => simpa [hat] using hf.symm
    | some c => simp [hat]

theorem entry_eq_nameTooLong_iff :
    w.entry p = .error .nameTooLong ↔ w.locate p = .error .nameTooLong :=
  entry_eq_error_iff nofun

theorem isFile_iff : w.isFile p = true ↔ ∃ content, w.entry p = .ok (.file content) := by
  rw [isFile]
  cases w.entry p with
  | error f => simp
  | ok e =>
    cases e with
    | file content => simp [Entry.isFile]
    | link _ | directory _ => simp [Entry.isFile]

theorem isDirectory_iff : w.isDirectory p = true ↔ ∃ es, w.entry p = .ok (.directory es) := by
  rw [isDirectory]
  cases w.entry p with
  | error f => simp
  | ok e =>
    cases e with
    | directory es => simp [Entry.isDirectory]
    | file _ | link _ => simp [Entry.isDirectory]

theorem exists?_eq_true_iff : w.exists? p = .ok true ↔ ∃ e, w.entry p = .ok e := by
  rw [exists?]
  split
  · next e he => simp [he]
  · next he => simp [he]
  · next f _ hf => simp [hf]

/-! ### The first file of some paths -/

section firstFile

variable {rest : List Path} {o : Option Path}

theorem firstFile?_cons_of_isFile (h : w.isFile p = true) :
    w.firstFile? (p :: rest) = .ok (some p) := by
  obtain ⟨content, he⟩ := isFile_iff.mp h
  rw [firstFile?, he]
  rfl

theorem firstFile?_cons_of_isFile_false (h : w.isFile p = false)
    (hshort : w.entry p ≠ .error .nameTooLong) : w.firstFile? (p :: rest) = w.firstFile? rest := by
  rw [isFile] at h
  rw [firstFile?]
  cases he : w.entry p with
  | ok e =>
    rw [he] at h
    exact if_neg (ne_true_of_eq_false h)
  | error error =>
    cases error with
    | nameTooLong => exact absurd he hshort
    | notFound | notDirectory | isDirectory | tooManyLinks => rfl

theorem ne_nameTooLong_of_firstFile? (h : w.firstFile? (p :: rest) = .ok o) :
    w.entry p ≠ .error .nameTooLong := by
  intro he
  rw [firstFile?, he] at h
  cases h

/-- Only a name that is too long stops a search. -/
theorem error_of_firstFile? {ps : List Path} {fault : FileFault}
    (h : w.firstFile? ps = .error fault) : fault.error = .nameTooLong := by
  induction ps with
  | nil => cases h
  | cons q rest ih =>
    by_cases hshort : w.entry q = .error .nameTooLong
    · rw [firstFile?, hshort] at h
      rw [← Except.error.inj h]
    · by_cases hfile : w.isFile q = true
      · rw [firstFile?_cons_of_isFile hfile] at h
        cases h
      · rw [firstFile?_cons_of_isFile_false (Bool.eq_false_iff.mpr hfile) hshort] at h
        exact ih h

/-- A search that looks at one path only tells whether there is a file. -/
theorem firstFile?_singleton_eq_ok_iff :
    w.firstFile? [p] = .ok o ↔
      w.entry p ≠ .error .nameTooLong ∧ o = if w.isFile p then some p else none := by
  by_cases hfile : w.isFile p = true
  · rw [firstFile?_cons_of_isFile hfile, if_pos hfile, Except.ok.injEq, eq_comm]
    obtain ⟨content, he⟩ := isFile_iff.mp hfile
    simp [he]
  · rw [if_neg hfile]
    constructor
    · intro h
      have hshort := ne_nameTooLong_of_firstFile? h
      rw [firstFile?_cons_of_isFile_false (Bool.eq_false_iff.mpr hfile) hshort] at h
      exact ⟨hshort, (Except.ok.inj h).symm⟩
    · rintro ⟨hshort, rfl⟩
      exact firstFile?_cons_of_isFile_false (Bool.eq_false_iff.mpr hfile) hshort

end firstFile

end Workspace

end Preflight
