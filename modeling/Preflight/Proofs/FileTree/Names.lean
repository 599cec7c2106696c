import Mathlib.Data.List.Nodup
import Preflight.Proofs.FileTree.Lookup
import Preflight.Proofs.FileTree.PathText
import Preflight.Scan

/-!
# Names on the way to a file

In a file tree every entry of a directory has the name of a file. A path that leads to something
therefore holds such names only, apart from the segments that say where to go; a real path holds
none of those. So every file of a scan is at a path of names, and its id leads back to it.

## Main definitions

* `Entry.wellNamed`, `Workspace.WellNamed`: trees in which every entry has the name of a file.

## Main results

* `names_of_follow`: the names on a path that leads somewhere.
* `Workspace.names_of_mem_scan_files`: the files of a scan are at paths of names.
* `ScanTarget.join_fileId`, `ScanTarget.fileId_injOn`: the ids of a scan.
-/

namespace Preflight

/-! ### Well-named trees -/

mutual

/-- Every entry below this one has the name of a file. -/
def Entry.wellNamed : Entry → Bool
  | .file _ => true
  | .link _ => true
  | .directory es => Entry.wellNamedAll es

/-- Some entries and every entry below them have names of files. -/
def Entry.wellNamedAll : List (String × Entry) → Bool
  | [] => true
  | (name, e) :: rest => isFileName name && Entry.wellNamed e && Entry.wellNamedAll rest

end

/-- A file tree as a file system holds it: every entry has the name of a file. -/
def Workspace.WellNamed (w : Workspace) : Prop := w.top.wellNamed = true

namespace Entry

theorem wellNamedAll_cons {name : String} {e : Entry} {rest : List (String × Entry)} :
    wellNamedAll ((name, e) :: rest) = true ↔
      isFileName name = true ∧ e.wellNamed = true ∧ wellNamedAll rest = true := by
  rw [wellNamedAll, Bool.and_eq_true, Bool.and_eq_true, and_assoc]

theorem wellNamed_of_lookup {es : List (String × Entry)} (h : wellNamedAll es = true)
    {name : String} {e : Entry} (he : es.lookup name = some e) :
    isFileName name = true ∧ e.wellNamed = true := by
  induction es with
  | nil => cases he
  | cons entry rest ih =>
    obtain ⟨n, old⟩ := entry
    obtain ⟨hname, hold, hrest⟩ := wellNamedAll_cons.mp h
    rw [List.lookup_cons] at he
    split at he
    · next hn =>
      obtain rfl := Option.some.inj he
      rw [beq_iff_eq.mp hn]
      exact ⟨hname, hold⟩
    · exact ih hrest he

theorem wellNamed_of_at? {e e' : Entry} {place : Place} (h : e.wellNamed = true)
    (hat : e.at? place = some e') : e'.wellNamed = true := by
  induction place generalizing e with
  | nil =>
    obtain rfl := Option.some.inj hat
    exact h
  | cons name rest ih =>
    obtain ⟨c, hc, hrest⟩ := Option.bind_eq_some_iff.mp hat
    cases e with
    | file _ => cases hc
    | link _ => cases hc
    | directory es => exact ih (wellNamed_of_lookup h hc).2 hrest

/-- The names that lead to an entry are names of files. -/
theorem names_of_at? {e e' : Entry} {place : Place} (h : e.wellNamed = true)
    (hat : e.at? place = some e') : ∀ s ∈ place, isFileName s = true := by
  induction place generalizing e with
  | nil => simp
  | cons name rest ih =>
    obtain ⟨c, hc, hrest⟩ := Option.bind_eq_some_iff.mp hat
    cases e with
    | file _ => cases hc
    | link _ => cases hc
    | directory es =>
      obtain ⟨hname, hnamed⟩ := wellNamed_of_lookup h hc
      exact List.forall_mem_cons.mpr ⟨hname, ih hnamed hrest⟩

end Entry

/-! ### Following a path -/

/-- A segment says where to go, or says nothing. -/
def isDirection (s : String) : Prop := s = "" ∨ s = "." ∨ s = ".."

/-- No direction is the name of a file. -/
theorem not_isDirection_of_isFileName {s : String} (h : isFileName s = true) : ¬isDirection s := by
  rintro (rfl | rfl | rfl)
  · exact absurd h (by decide)
  · exact absurd h (by decide)
  · exact absurd h (by decide)

theorem names_of_followUpTo {top : Entry} (htop : top.wellNamed = true)
    {atLink : String → Place → List String → Except FileError Place} {place place' : Place}
    {segments : List String}
    (hlink : ∀ {target : String} {place : Place} {rest : List String},
      atLink target place rest = .ok place' → ∀ s ∈ rest, isDirection s ∨ isFileName s = true)
    (h : followUpTo top atLink place segments = .ok place') :
    ∀ s ∈ segments, isDirection s ∨ isFileName s = true := by
  fun_induction followUpTo top atLink place segments with
  | case1 => simp
  | case2 place s rest es hdir hs ih =>
    intro t ht
    rcases List.mem_cons.mp ht with rfl | ht
    · simp only [Bool.or_eq_true, decide_eq_true_eq] at hs
      exact Or.inl (hs.imp_right Or.inl)
    · exact ih h t ht
  | case3 place rest es hdir hs ih =>
    intro t ht
    rcases List.mem_cons.mp ht with rfl | ht
    · exact Or.inl (Or.inr (Or.inr rfl))
    · exact ih h t ht
  | case4 => cases h
  | case5 => cases h
  | case6 place s rest es hdir hs hdots hlen target he =>
    have hnames := Entry.wellNamed_of_at? htop hdir
    intro t ht
    rcases List.mem_cons.mp ht with rfl | ht
    · exact Or.inr (Entry.wellNamed_of_lookup hnames he).1
    · exact hlink h t ht
  | case7 place s rest es hdir hs hdots hlen e _ he ih =>
    have hnames := Entry.wellNamed_of_at? htop hdir
    intro t ht
    rcases List.mem_cons.mp ht with rfl | ht
    · exact Or.inr (Entry.wellNamed_of_lookup hnames he).1
    · exact ih h t ht
  | case8 => cases h

/-- A path that leads somewhere holds names of files and directions only. Links change nothing
in this, because the segments after a link are followed all the same. -/
theorem names_of_follow {top : Entry} (htop : top.wellNamed = true) {budget : Nat}
    {place place' : Place} {segments : List String}
    (h : follow top budget place segments = .ok place') :
    ∀ s ∈ segments, isDirection s ∨ isFileName s = true := by
  induction budget generalizing place segments with
  | zero =>
    refine names_of_followUpTo htop (fun hlink => ?_) h
    cases hlink
  | succ budget ih =>
    refine names_of_followUpTo htop (fun hlink s hs => ?_) h
    exact ih hlink s (List.mem_append_right _ hs)

namespace Workspace

variable {w : Workspace}

theorem names_of_isFile (hw : w.WellNamed) {p : Path} (h : w.isFile p = true) :
    ∀ s ∈ p.segments, isDirection s ∨ isFileName s = true := by
  obtain ⟨content, hentry⟩ := isFile_iff.mp h
  obtain ⟨place, hplace, -⟩ := entry_eq_ok_iff.mp hentry
  exact names_of_follow hw hplace

/-! ### Real paths -/

theorem normalizeFrom_segments {acc segments : List String}
    (hacc : ∀ s ∈ acc, Path.isSegment s = true ∧ s ≠ "..")
    (hsegments : ∀ s ∈ segments, Path.isSegment s = true) :
    ∀ s ∈ Path.normalizeFrom true acc segments, ¬isDirection s := by
  fun_induction Path.normalizeFrom true acc segments with
  | case1 acc =>
    intro s hs hdir
    obtain ⟨hsegment, hdots⟩ := hacc s (List.mem_reverse.mp hs)
    rcases hdir with rfl | rfl | rfl
    · exact absurd hsegment (by decide)
    · exact absurd hsegment (by decide)
    · exact hdots rfl
  | case2 rest ih =>
    exact ih (by simp) fun s hs => hsegments s (List.mem_cons_of_mem _ hs)
  | case3 rest more ih => exact absurd rfl (hacc ".." (List.mem_cons_self ..)).2
  | case4 rest t more ht ih =>
    exact ih (fun s hs => hacc s (List.mem_cons_of_mem _ hs))
      fun s hs => hsegments s (List.mem_cons_of_mem _ hs)
  | case5 acc s rest hs ih =>
    refine ih (fun t ht => ?_) fun t ht => hsegments t (List.mem_cons_of_mem _ ht)
    rcases List.mem_cons.mp ht with rfl | ht
    · exact ⟨hsegments t (List.mem_cons_self ..), hs⟩
    · exact hacc t ht

/-- A real path starts at the top and holds no directions. -/
theorem realPlace_directions (w : Workspace) (p : Path) :
    (w.realPlace p).anchor = .top ∧ ∀ s ∈ (w.realPlace p).segments, ¬isDirection s :=
  ⟨rfl, normalizeFrom_segments (by simp) fun _ hs => (List.mem_filter.mp hs).2⟩

theorem eq_realPlace_of_resolve {p real : Path} (h : w.resolve p = .ok real) :
    ∃ q, real = w.realPlace q := by
  rw [resolve] at h
  split at h
  · next q _ =>
    rw [realPath] at h
    split at h
    · cases h
    · dsimp only at h
      split at h
      · cases h
      · exact ⟨q, (Except.ok.inj h).symm⟩
  · cases h

theorem real_of_resolve {p real : Path} (h : w.resolve p = .ok real) :
    real.anchor = .top ∧ ∀ s ∈ real.segments, ¬isDirection s := by
  obtain ⟨q, rfl⟩ := eq_realPlace_of_resolve h
  exact w.realPlace_directions q

/-! ### The files of a scan -/

mutual

/-- What a walk finds at an entry is there or below it, by names of files. -/
theorem names_of_mem_filesAt {enters : Place → Bool} {place p : Place} {e : Entry}
    (he : e.wellNamed = true) (h : p ∈ e.filesAt enters place) :
    ∃ below, p = place ++ below ∧ ∀ s ∈ below, isFileName s = true := by
  cases e with
  | file _ | link _ =>
    rw [Entry.filesAt, List.mem_singleton] at h
    exact ⟨[], by simp [h], by simp⟩
  | directory es =>
    rw [Entry.filesAt] at h
    split at h
    · obtain ⟨below, -, hbelow⟩ := names_of_mem_filesBelowAll he h
      exact ⟨below, hbelow⟩
    · cases h

/-- What a walk finds is below where it starts, by names of files. -/
theorem names_of_mem_filesBelowAll {enters : Place → Bool} {place p : Place}
    {es : List (String × Entry)} (hes : Entry.wellNamedAll es = true)
    (h : p ∈ filesBelowAll enters place es) :
    ∃ below, below ≠ [] ∧ p = place ++ below ∧ ∀ s ∈ below, isFileName s = true := by
  match es with
  | [] => cases h
  | (name, e) :: rest =>
    obtain ⟨hname, he, hrest⟩ := Entry.wellNamedAll_cons.mp hes
    rw [filesBelowAll, List.mem_append] at h
    rcases h with h | h
    · obtain ⟨below, rfl, hbelow⟩ := names_of_mem_filesAt he h
      refine ⟨name :: below, List.cons_ne_nil name below, by simp, fun s hs => ?_⟩
      rcases List.mem_cons.mp hs with rfl | hs
      · exact hname
      · exact hbelow s hs
    · exact names_of_mem_filesBelowAll hrest h

end

/-- A walk takes what it looks for. -/
theorem takes_of_mem_sourceFiles {s : Selection} {base root place : Place}
    (h : place ∈ w.sourceFiles s base root) : s.takes (placeBelow base place) = true := by
  rw [sourceFiles, List.mem_mergeSort, mem_distinct, sourceWalk, List.mem_filter,
    Bool.and_eq_true] at h
  exact h.2.1

theorem mem_sourceFiles {s : Selection} {base root place : Place}
    (h : place ∈ w.sourceFiles s base root) :
    w.isFile (pathOf place) = true ∧
      ∃ e, w.top.at? root = some e ∧
        place ∈ e.filesBelow (fun place => s.enters (placeBelow base place)) root := by
  rw [sourceFiles, List.mem_mergeSort, mem_distinct, sourceWalk, List.mem_filter,
    Bool.and_eq_true] at h
  obtain ⟨hfound, -, hfile⟩ := h
  refine ⟨hfile, ?_⟩
  split at hfound
  · next e he => exact ⟨e, he, hfound⟩
  · cases hfound

/-- What a walk takes is below the directory it starts from. -/
theorem below_of_mem_sourceFiles (hw : w.WellNamed) {s : Selection} {base root place : Place}
    (h : place ∈ w.sourceFiles s base root) :
    ∃ below, below ≠ [] ∧ place = root ++ below ∧ ∀ s ∈ below, isFileName s = true := by
  obtain ⟨-, e, he, hbelow⟩ := mem_sourceFiles h
  have hnamed : Entry.wellNamedAll e.entries = true := by
    have := Entry.wellNamed_of_at? hw he
    cases e with
    | directory es => exact this
    | file _ | link _ => rfl
  exact names_of_mem_filesBelowAll hnamed hbelow

theorem names_of_mem_sourceFiles (hw : w.WellNamed) {s : Selection} {base root place : Place}
    (hroot : ∀ s ∈ root, ¬isDirection s) (h : place ∈ w.sourceFiles s base root) :
    ∀ s ∈ place, isFileName s = true := by
  obtain ⟨below, -, rfl, hnames⟩ := below_of_mem_sourceFiles hw h
  intro s hs
  rcases List.mem_append.mp hs with hs | hs
  · exact (names_of_isFile hw (mem_sourceFiles h).1 s (List.mem_append_left _ hs)).resolve_left
      (hroot s hs)
  · exact hnames s hs

/-- What a scan makes of a target: the project above the real path of the target, and either the
target itself or the files that a walk below it takes. -/
theorem scan_ok {settings : ScanSettings} {target : String} {found : ScanTarget}
    (h : w.scan settings target = .ok found) :
    ∃ real, w.resolve (Path.ofString target) = .ok real ∧
      w.projectRootAbove settings.manifestFiles real = .ok found.projectRoot ∧
      ((w.isFile real = true ∧ found.files = [real]) ∨
        ∃ rules, w.ignoreRules found.projectRoot settings.excludePaths = .ok rules ∧
          found.files = (w.sourceFiles ⟨rules, settings.extensions, false⟩
            found.projectRoot.segments real.segments).map pathOf) := by
  rw [scan] at h
  split at h
  · cases h
  · next real hreal =>
    refine ⟨real, hreal, ?_⟩
    split at h
    · cases h
    · cases h
    · rw [scanFrom] at h
      split at h
      · cases h
      · next root hroot =>
        split at h
        · next hfile =>
          obtain rfl := Except.ok.inj h
          exact ⟨hroot, Or.inl ⟨hfile, rfl⟩⟩
        · split at h
          · cases h
          · next rules hrules =>
            obtain rfl := Except.ok.inj h
            exact ⟨hroot, Or.inr ⟨rules, hrules, rfl⟩⟩

/-- **The files of a scan are at paths of names.** -/
theorem names_of_mem_scan_files (hw : w.WellNamed) {settings : ScanSettings} {target : String}
    {found : ScanTarget} (h : w.scan settings target = .ok found) {file : Path}
    (hfile : file ∈ found.files) :
    file.isAbsolute = true ∧ ∀ s ∈ file.segments, isFileName s = true := by
  obtain ⟨real, hreal, -, hfiles⟩ := scan_ok h
  obtain ⟨hanchor, hdirections⟩ := real_of_resolve hreal
  rcases hfiles with ⟨hisFile, heq⟩ | ⟨rules, -, heq⟩
  · rw [heq, List.mem_singleton] at hfile
    subst hfile
    refine ⟨Path.isAbsolute_of_anchor hanchor, fun s hs => ?_⟩
    exact (names_of_isFile hw hisFile s hs).resolve_left (hdirections s hs)
  · rw [heq] at hfile
    obtain ⟨place, hplace, rfl⟩ := List.mem_map.mp hfile
    exact ⟨rfl, names_of_mem_sourceFiles hw hdirections hplace⟩

theorem sourceFiles_nodup (s : Selection) (base root : Place) :
    (w.sourceFiles s base root).Nodup :=
  (List.mergeSort_perm _ _).nodup_iff.mpr (nodup_distinct _)

theorem scan_files_nodup {settings : ScanSettings} {target : String} {found : ScanTarget}
    (h : w.scan settings target = .ok found) : found.files.Nodup := by
  obtain ⟨real, -, -, ⟨-, heq⟩ | ⟨rules, -, heq⟩⟩ := scan_ok h
  · rw [heq]
    exact List.nodup_singleton real
  · rw [heq]
    exact (sourceFiles_nodup _ _ _).map (f := pathOf) fun a b hab => congrArg Path.segments hab

end Workspace

namespace ScanTarget

variable {w : Workspace} {settings : ScanSettings} {target : String} {found : ScanTarget}

/-- The id of a file of a scan leads from the project to the file. -/
theorem join_fileId (hw : w.WellNamed) (h : w.scan settings target = .ok found) {file : Path}
    (hfile : file ∈ found.files) :
    found.projectRoot.join (Path.ofString (found.fileId file)) = file := by
  obtain ⟨habsolute, hnames⟩ := Workspace.names_of_mem_scan_files hw h hfile
  exact Path.join_ofString_seenFrom habsolute hnames

/-- Different files of a scan have different ids. -/
theorem fileId_injOn (hw : w.WellNamed) (h : w.scan settings target = .ok found) {a b : Path}
    (ha : a ∈ found.files) (hb : b ∈ found.files) (hab : found.fileId a = found.fileId b) :
    a = b := by
  rw [← join_fileId hw h ha, ← join_fileId hw h hb, hab]

theorem fileIds_nodup (hw : w.WellNamed) (h : w.scan settings target = .ok found) :
    (found.files.map found.fileId).Nodup :=
  (Workspace.scan_files_nodup h).map_on fun _ ha _ hb => fileId_injOn hw h ha hb

end ScanTarget

end Preflight
