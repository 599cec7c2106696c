import Mathlib.Data.List.Sort
import Preflight.Proofs.FileTree.Project
import Preflight.Proofs.FileTree.Walk
import Preflight.Proofs.Log.Results

/-!
# Excluded paths

The settings of a project can leave paths out of a scan. Their patterns come after the rules of the
ignore file and none of them takes anything back in, so a path is left out as soon as one of them
matches it. A walk that enters fewer directories and takes fewer names finds fewer files, in the
same order. So to exclude more can only remove files, and neither the order of the patterns nor
their number matters, although the order of rules matters in general.

## Main definitions

* `excludeRules`, `ExcludedBy`: the rules some patterns denote, and what they match.
* `Selection.NarrowerThan`: a walk that enters and takes nothing that another does not.
* `ScanTarget.PartOf`: a scan of the same directory that selects some of the files of another.

## Main results

* `isIgnored_append_excludeRules`: a path is left out by the ignore file or by one of the patterns.
* `Workspace.sourceFiles_sublist`: a narrower walk.
* `exclusion_only_removes`: the scans of a target, for all patterns to exclude.
-/

namespace Preflight

/-! ### Rules that exclude -/

/-- The rules that some patterns of the settings denote. -/
def excludeRules (excluded : List String) : List IgnoreRule :=
  excluded.filterMap fun pattern => IgnoreRule.ofPattern? pattern.toList false

/-- One of some patterns of the settings denotes a rule that matches a path. -/
def ExcludedBy (excluded : List String) (path : String) (isDirectory : Bool) : Prop :=
  ∃ pattern ∈ excluded, ∃ rule, IgnoreRule.ofPattern? pattern.toList false = some rule ∧
    rule.covers path.toList isDirectory = true

theorem ExcludedBy.mono {excluded excluded' : List String} (h : excluded ⊆ excluded')
    {path : String} {isDirectory : Bool} (hpath : ExcludedBy excluded path isDirectory) :
    ExcludedBy excluded' path isDirectory := by
  obtain ⟨pattern, hmem, hrule⟩ := hpath
  exact ⟨pattern, h hmem, hrule⟩

theorem IgnoreRule.negate_of_ofPattern? {pattern : List Char} {negate : Bool} {rule : IgnoreRule}
    (h : ofPattern? pattern negate = some rule) : rule.negate = negate := by
  rw [ofPattern?] at h
  dsimp only at h
  split at h
  · cases h
  · obtain rfl := Option.some.inj h
    rfl

theorem mem_excludeRules {excluded : List String} {rule : IgnoreRule} :
    rule ∈ excludeRules excluded ↔
      ∃ pattern ∈ excluded, IgnoreRule.ofPattern? pattern.toList false = some rule :=
  List.mem_filterMap

/-- Rules that take nothing back in leave out what they match, wherever they stand among
themselves. -/
theorem isIgnored_append {rules given : List IgnoreRule}
    (h : ∀ rule ∈ given, rule.negate = false) (path : List Char) (isDirectory : Bool) :
    isIgnored (rules ++ given) path isDirectory =
      (isIgnored rules path isDirectory || given.any fun rule => rule.covers path isDirectory) := by
  induction given generalizing rules with
  | nil => simp
  | cons rule given ih =>
    obtain ⟨hrule, hgiven⟩ := List.forall_mem_cons.mp h
    rw [← List.singleton_append, ← List.append_assoc, ih hgiven, isIgnored_append_singleton, hrule,
      List.singleton_append, List.any_cons]
    cases rule.covers path isDirectory with
    | false => simp
    | true => simp

/-- **A path is left out** by the rules of the ignore file or by one of the patterns to exclude. -/
theorem isIgnored_append_excludeRules (rules : List IgnoreRule) (excluded : List String)
    (path : String) (isDirectory : Bool) :
    isIgnored (rules ++ excludeRules excluded) path.toList isDirectory = true ↔
      isIgnored rules path.toList isDirectory = true ∨ ExcludedBy excluded path isDirectory := by
  have hnegate : ∀ rule ∈ excludeRules excluded, rule.negate = false := by
    intro rule hrule
    obtain ⟨pattern, -, hpattern⟩ := mem_excludeRules.mp hrule
    exact IgnoreRule.negate_of_ofPattern? hpattern
  rw [isIgnored_append hnegate, Bool.or_eq_true, List.any_eq_true]
  refine or_congr_right ?_
  constructor
  · rintro ⟨rule, hrule, hcovers⟩
    obtain ⟨pattern, hmem, hpattern⟩ := mem_excludeRules.mp hrule
    exact ⟨pattern, hmem, rule, hpattern, hcovers⟩
  · rintro ⟨pattern, hmem, rule, hpattern, hcovers⟩
    exact ⟨rule, mem_excludeRules.mpr ⟨pattern, hmem, hpattern⟩, hcovers⟩

/-- What is left out stays left out with more patterns to exclude. -/
theorem isIgnored_of_subset {excluded excluded' : List String} (h : excluded ⊆ excluded')
    (rules : List IgnoreRule) (path : String) {isDirectory : Bool}
    (hignored : isIgnored (rules ++ excludeRules excluded) path.toList isDirectory = true) :
    isIgnored (rules ++ excludeRules excluded') path.toList isDirectory = true := by
  rw [isIgnored_append_excludeRules] at hignored ⊢
  exact hignored.imp_right fun hpath => hpath.mono h

/-- The rules of a project are those of its ignore file, then those of the settings. -/
theorem Workspace.ignoreRules_eq_map (w : Workspace) (root : Path) (excluded : List String) :
    w.ignoreRules root excluded =
      (w.ignoreRules root []).map fun rules => rules ++ excludeRules excluded := by
  rw [ignoreRules, ignoreRules]
  cases w.readText (root.child ignoreFileName) with
  | ok text => simp [Except.map, excludeRules]
  | error e =>
    cases e with
    | file fault => rfl
    | decode e => rfl

/-! ### Narrower walks -/

mutual

/-- A walk that enters fewer directories finds fewer places at an entry, in the same order. -/
theorem Entry.filesAt_sublist {enters enters' : Place → Bool}
    (h : ∀ p, enters' p = true → enters p = true) (place : Place) (e : Entry) :
    (e.filesAt enters' place).Sublist (e.filesAt enters place) := by
  cases e with
  | file _ | link _ => exact List.Sublist.refl _
  | directory es =>
    rw [filesAt, filesAt]
    by_cases hentered : enters' place = true
    · rw [if_pos hentered, if_pos (h place hentered)]
      exact Entry.filesBelowAll_sublist h place es
    · rw [if_neg hentered]
      exact List.nil_sublist _

/-- A walk that enters fewer directories finds fewer places below some entries. -/
theorem Entry.filesBelowAll_sublist {enters enters' : Place → Bool}
    (h : ∀ p, enters' p = true → enters p = true) (place : Place) (es : List (String × Entry)) :
    (filesBelowAll enters' place es).Sublist (filesBelowAll enters place es) := by
  match es with
  | [] => exact List.Sublist.refl _
  | (name, e) :: rest =>
    exact (Entry.filesAt_sublist h (place ++ [name]) e).append
      (Entry.filesBelowAll_sublist h place rest)

end

mutual

/-- What a walk finds at an entry is there or below it, through directories that are entered. -/
theorem Entry.way_of_mem_filesAt {enters : Place → Bool} {place p : Place} {e : Entry}
    (h : p ∈ e.filesAt enters place) :
    ∃ below, p = place ++ below ∧ EntersAll enters place below := by
  cases e with
  | file _ | link _ =>
    rw [filesAt, List.mem_singleton] at h
    exact ⟨[], by rw [h, List.append_nil], trivial⟩
  | directory es =>
    rw [filesAt] at h
    split at h
    · next hplace =>
      obtain ⟨name, rest, heq, hrest⟩ := Entry.way_of_mem_filesBelowAll h
      exact ⟨name :: rest, heq, hplace, hrest⟩
    · cases h

/-- What a walk finds below some entries is below the directory they are in. -/
theorem Entry.way_of_mem_filesBelowAll {enters : Place → Bool} {place p : Place}
    {es : List (String × Entry)} (h : p ∈ filesBelowAll enters place es) :
    ∃ name rest, p = place ++ name :: rest ∧ EntersAll enters (place ++ [name]) rest := by
  match es with
  | [] => cases h
  | (name, e) :: others =>
    rw [filesBelowAll, List.mem_append] at h
    rcases h with h | h
    · obtain ⟨rest, heq, hrest⟩ := Entry.way_of_mem_filesAt h
      exact ⟨name, rest, by rw [heq, List.append_assoc, List.singleton_append], hrest⟩
    · exact Entry.way_of_mem_filesBelowAll h

end

/-- A walk enters and takes nothing that another does not. -/
structure Selection.NarrowerThan (s' s : Selection) : Prop where
  enters : ∀ segments, s'.enters segments = true → s.enters segments = true
  takes : ∀ segments, s'.takes segments = true → s.takes segments = true

/-- Rules that leave out more make a walk narrower. -/
theorem Selection.narrowerThan_of_rules {rules rules' : List IgnoreRule}
    (h : ∀ segments isDirectory, isIgnored rules (ruleText segments) isDirectory = true →
      isIgnored rules' (ruleText segments) isDirectory = true)
    (extensions : List String) (includeTests : Bool) :
    NarrowerThan ⟨rules', extensions, includeTests⟩ ⟨rules, extensions, includeTests⟩ := by
  have hkept : ∀ segments isDirectory, isIgnored rules' (ruleText segments) isDirectory = false →
      isIgnored rules (ruleText segments) isDirectory = false := by
    intro segments isDirectory hnot
    refine Bool.eq_false_iff.mpr fun hignored => ?_
    rw [h segments isDirectory hignored] at hnot
    cases hnot
  constructor
  · intro segments hentered
    simp only [Selection.enters, Bool.and_eq_true, Bool.not_eq_true'] at hentered ⊢
    exact ⟨hentered.1, hkept segments true hentered.2⟩
  · intro segments htaken
    simp only [Selection.takes, Bool.and_eq_true, Bool.not_eq_true'] at htaken ⊢
    exact ⟨⟨htaken.1.1, hkept segments false htaken.1.2⟩, htaken.2⟩

namespace Workspace

variable {w : Workspace}

/-- A narrower walk meets fewer files. -/
theorem sourceWalk_sublist {s s' : Selection} (h : s'.NarrowerThan s) (base root : Place) :
    (w.sourceWalk s' base root).Sublist (w.sourceWalk s base root) := by
  rw [sourceWalk, sourceWalk]
  have htakes : ∀ place, (s'.takes (placeBelow base place) && w.isFile (pathOf place)) = true →
      (s.takes (placeBelow base place) && w.isFile (pathOf place)) = true := by
    intro place hplace
    rw [Bool.and_eq_true] at hplace ⊢
    exact ⟨h.takes _ hplace.1, hplace.2⟩
  refine List.Sublist.trans (List.Sublist.filter _ ?_) (List.monotone_filter_right _ htakes)
  cases w.top.at? root with
  | none => exact List.Sublist.refl _
  | some e => exact Entry.filesBelowAll_sublist (fun p => h.enters _) root e.entries

/-- **A narrower walk takes fewer files**, in the same order. -/
theorem sourceFiles_sublist {s s' : Selection} (h : s'.NarrowerThan s) (base root : Place) :
    (w.sourceFiles s' base root).Sublist (w.sourceFiles s base root) := by
  have : Std.Antisymm fun a b : Place => comesNoLater a b = true :=
    ⟨fun _ _ => comesNoLater_antisymm⟩
  have hsubset : w.sourceFiles s' base root ⊆ w.sourceFiles s base root := by
    intro place hplace
    rw [sourceFiles, List.mem_mergeSort, mem_distinct] at hplace ⊢
    exact (sourceWalk_sublist h base root).subset hplace
  exact List.sublist_of_subperm_of_pairwise
    (List.subperm_of_subset (sourceFiles_nodup s' base root) hsubset)
    (pairwise_mergeSort_comesNoLater _) (pairwise_mergeSort_comesNoLater _)

end Workspace

/-! ### Scans -/

/-- What a scan looks for, with other patterns to exclude. -/
def ScanSettings.excluding (settings : ScanSettings) (excluded : List String) : ScanSettings :=
  { settings with excludePaths := excluded }

/-- A scan of the same directory that selects some of the files of another, in the same order. -/
structure ScanTarget.PartOf (found' found : ScanTarget) : Prop where
  projectRoot : found'.projectRoot = found.projectRoot
  scanRoot : found'.scanRoot = found.scanRoot
  files : found'.files.Sublist found.files

/-- Two scans fail alike, or the second selects some of the files of the first. -/
def SelectsLess (scan scan' : Except ScanError ScanTarget) : Prop :=
  (∃ e, scan = .error e ∧ scan' = .error e) ∨
    ∃ found found', scan = .ok found ∧ scan' = .ok found' ∧ found'.PartOf found

/-- Scans that select no more than each other are the same. -/
theorem SelectsLess.antisymm {scan scan' : Except ScanError ScanTarget}
    (h : SelectsLess scan scan') (h' : SelectsLess scan' scan) : scan = scan' := by
  rcases h with ⟨e, he, he'⟩ | ⟨found, found', hfound, hfound', hpart⟩
  · rw [he, he']
  · rcases h' with ⟨e, he, -⟩ | ⟨other', other, hother', hother, hback⟩
    · rw [hfound'] at he
      cases he
    · obtain rfl := Except.ok.inj (hfound.symm.trans hother)
      obtain rfl := Except.ok.inj (hfound'.symm.trans hother')
      have hfiles := hpart.files.antisymm hback.files
      obtain ⟨root, scanRoot, files⟩ := found
      obtain ⟨root', scanRoot', files'⟩ := found'
      obtain rfl : root' = root := hpart.projectRoot
      obtain rfl : scanRoot' = scanRoot := hpart.scanRoot
      obtain rfl : files' = files := hfiles
      rw [hfound, hfound']

namespace Workspace

variable {w : Workspace} {settings : ScanSettings} {excluded excluded' : List String}
  {target : String} {found : ScanTarget}

theorem scanFrom_selectsLess (h : excluded ⊆ excluded') (real : Path) :
    SelectsLess (w.scanFrom (settings.excluding excluded) real)
      (w.scanFrom (settings.excluding excluded') real) := by
  rw [scanFrom, scanFrom]
  dsimp only [ScanSettings.excluding]
  cases w.projectRootAbove settings.manifestFiles real with
  | error f => exact Or.inl ⟨_, rfl, rfl⟩
  | ok root =>
    dsimp only
    by_cases hfile : w.isFile real = true
    · rw [if_pos hfile, if_pos hfile]
      exact Or.inr ⟨_, _, rfl, rfl, rfl, rfl, List.Sublist.refl _⟩
    · rw [if_neg hfile, if_neg hfile, ignoreRules_eq_map w _ excluded,
        ignoreRules_eq_map w _ excluded']
      cases w.ignoreRules root [] with
      | error e => exact Or.inl ⟨_, rfl, rfl⟩
      | ok rules =>
        have hnarrower := Selection.narrowerThan_of_rules
          (fun segments isDirectory => isIgnored_of_subset h rules ("/".intercalate segments))
          settings.extensions false
        exact Or.inr ⟨_, _, rfl, rfl, rfl, rfl, (sourceFiles_sublist hnarrower _ _).map pathOf⟩

/-- **To exclude more can only remove files.** -/
theorem scan_selectsLess (h : excluded ⊆ excluded') (target : String) :
    SelectsLess (w.scan (settings.excluding excluded) target)
      (w.scan (settings.excluding excluded') target) := by
  rw [scan, scan]
  cases w.resolve (Path.ofString target) with
  | error e => exact Or.inl ⟨_, rfl, rfl⟩
  | ok real =>
    dsimp only
    cases w.exists? real with
    | error e => exact Or.inl ⟨_, rfl, rfl⟩
    | ok there =>
      cases there with
      | false => exact Or.inl ⟨_, rfl, rfl⟩
      | true => exact scanFrom_selectsLess h real

/-- The rules by which a directory was scanned. -/
theorem exists_ignoreRules_of_scan (hscan : w.scan settings target = .ok found)
    (hdirectory : w.scansDirectory target = true) :
    ∃ rules, w.ignoreRules found.projectRoot settings.excludePaths = .ok rules := by
  obtain ⟨real, hreal, -, ⟨hfile, -⟩ | ⟨rules, hrules, -⟩⟩ := scan_ok hscan
  · rw [scansDirectory, hreal, Bool.not_eq_true', hfile] at hdirectory
    cases hdirectory
  · exact ⟨rules, hrules⟩

/-- What a walk takes is matched by no pattern to exclude, and neither is a directory on the way to
it from where the walk starts. -/
theorem not_excludedBy_of_mem_sourceFiles {rules : List IgnoreRule} {extensions : List String}
    {includeTests : Bool} {base down place : Place}
    (h : place ∈ w.sourceFiles ⟨rules ++ excludeRules excluded, extensions, includeTests⟩ base
      (base ++ down)) :
    ∃ below, below ≠ [] ∧ place = base ++ (down ++ below) ∧
      ¬ExcludedBy excluded ("/".intercalate (down ++ below)) false ∧
      ∀ way, way <+: below → way ≠ [] → way ≠ below →
        ¬ExcludedBy excluded ("/".intercalate (down ++ way)) true := by
  have hkept : ∀ segments isDirectory,
      isIgnored (rules ++ excludeRules excluded) (Selection.ruleText segments) isDirectory = false →
        ¬ExcludedBy excluded ("/".intercalate segments) isDirectory := by
    intro segments isDirectory hnot hexcluded
    have hignored := (isIgnored_append_excludeRules rules excluded _ isDirectory).mpr
      (Or.inr hexcluded)
    rw [Selection.ruleText] at hnot
    rw [hnot] at hignored
    cases hignored
  rw [sourceFiles, List.mem_mergeSort, mem_distinct, sourceWalk, List.mem_filter,
    Bool.and_eq_true] at h
  obtain ⟨hfound, htakes, -⟩ := h
  split at hfound
  · obtain ⟨name, rest, rfl, hentered⟩ := Entry.way_of_mem_filesBelowAll hfound
    refine ⟨name :: rest, List.cons_ne_nil name rest, List.append_assoc .., ?_,
      fun way hway hne hshort => ?_⟩
    · rw [List.append_assoc, placeBelow_append] at htakes
      simp only [Selection.takes, Bool.and_eq_true, Bool.not_eq_true'] at htakes
      exact hkept _ false htakes.1.2
    · obtain rfl | ⟨p, rfl, hp⟩ := List.prefix_cons_iff.mp hway
      · exact absurd rfl hne
      · have henters := entersAll_iff.mp hentered p hp fun heq => hshort (heq ▸ rfl)
        rw [List.append_assoc, List.append_assoc, placeBelow_append,
          List.singleton_append] at henters
        simp only [Selection.enters, Bool.and_eq_true, Bool.not_eq_true'] at henters
        exact hkept _ true henters.2
  · cases hfound

/-- **What is excluded is never selected**, whatever the ignore file takes back in. -/
theorem not_excludedBy_of_mem_scan_files
    (hscan : w.scan (settings.excluding excluded) target = .ok found)
    (hdirectory : w.scansDirectory target = true) {file : Path} (hfile : file ∈ found.files) :
    found.scanRoot.segments <+: file.segments ∧ ¬ExcludedBy excluded (found.fileId file) false ∧
      ∀ directory, found.scanRoot.segments <+: directory → directory <+: file.segments →
        directory ≠ found.scanRoot.segments → directory ≠ file.segments →
          ¬ExcludedBy excluded (found.fileId (pathOf directory)) true := by
  obtain ⟨rules, hrules⟩ := exists_ignoreRules_of_scan hscan hdirectory
  obtain ⟨-, -, -, hfiles⟩ := scan_directory hscan hdirectory hrules
  obtain ⟨htop, -, -, down, hdown⟩ := scan_directory_places hscan hdirectory hrules
  rw [ignoreRules_eq_map] at hrules
  obtain ⟨others, -, rfl⟩ := map_eq_ok_iff.mp hrules
  rw [hfiles] at hfile
  obtain ⟨place, hplace, rfl⟩ := List.mem_map.mp hfile
  rw [← hdown] at hplace ⊢
  obtain ⟨below, hne, rfl, hself, hway⟩ := not_excludedBy_of_mem_sourceFiles hplace
  have hid : ∀ way, way ≠ [] →
      found.fileId (pathOf (found.projectRoot.segments ++ (down ++ way))) =
        "/".intercalate (down ++ way) := by
    intro way hway
    exact Path.seenFrom_pathOf_append htop (List.append_ne_nil_of_right_ne_nil down hway)
  refine ⟨?_, by rwa [hid below hne], fun directory hbelow habove hroot hfull => ?_⟩
  · rw [pathOf, List.prefix_append_right_inj]
    exact List.prefix_append down below
  obtain ⟨way, rfl⟩ := hbelow
  have hne : way ≠ [] := fun hnil => hroot (by rw [hnil, List.append_nil])
  rw [List.append_assoc] at habove hfull ⊢
  rw [hid way hne]
  refine hway way ?_ hne fun heq => hfull (by rw [heq]; rfl)
  rwa [pathOf, List.prefix_append_right_inj, List.prefix_append_right_inj] at habove

end Workspace

/-- **Patterns to exclude only remove files, in any order.** Take any file tree, target and
settings. With more patterns to exclude a scan fails as it did before, or it selects some of the
files that it did. Two lists of the same patterns, in any order and with any repetitions, make the
same scan. And a scan of a directory selects only files below the directory that are matched by no
pattern to exclude, with no directory on the way from there that is matched by one, whatever the
ignore file of the project takes back in. -/
theorem exclusion_only_removes (w : Workspace) (settings : ScanSettings) (target : String) :
    (∀ excluded excluded' : List String, excluded ⊆ excluded' →
      SelectsLess (w.scan (settings.excluding excluded) target)
        (w.scan (settings.excluding excluded') target)) ∧
      (∀ excluded excluded' : List String,
        (∀ pattern, pattern ∈ excluded ↔ pattern ∈ excluded') →
          w.scan (settings.excluding excluded) target =
            w.scan (settings.excluding excluded') target) ∧
      ∀ excluded found, w.scan (settings.excluding excluded) target = .ok found →
        w.scansDirectory target = true → ∀ file ∈ found.files,
          found.scanRoot.segments <+: file.segments ∧
            ¬ExcludedBy excluded (found.fileId file) false ∧
            ∀ directory, found.scanRoot.segments <+: directory → directory <+: file.segments →
              directory ≠ found.scanRoot.segments → directory ≠ file.segments →
                ¬ExcludedBy excluded (found.fileId (Workspace.pathOf directory)) true := by
  refine ⟨fun excluded excluded' h => Workspace.scan_selectsLess h target,
    fun excluded excluded' h => ?_, fun excluded found hscan hdirectory file hfile =>
      Workspace.not_excludedBy_of_mem_scan_files hscan hdirectory hfile⟩
  have hforth : excluded ⊆ excluded' := fun pattern => (h pattern).mp
  have hback : excluded' ⊆ excluded := fun pattern => (h pattern).mpr
  exact (Workspace.scan_selectsLess hforth target).antisymm
    (Workspace.scan_selectsLess hback target)

/-- A project whose ignore file leaves out scripts of one kind and takes one of them back in. -/
def regainedFile : Workspace :=
  { top := .directory [("p", .directory [("package.json", .file []),
      (".gitignore", .file "*.js\n!keep.js\n".toUTF8.toList), ("a.ts", .file []),
      ("keep.js", .file []), ("old.js", .file [])])]
    current := []
    home := [] }

/-- The rules of its ignore file. -/
def regainedRules : List IgnoreRule :=
  [⟨"*.js".toList, false, false, false, false⟩, ⟨"keep.js".toList, false, false, true, false⟩]

/-- What is taken back in is selected, until a pattern excludes it. -/
theorem exclusion_only_removes_regainedFile :
    ∃ found found', regainedFile.scan {} "/p" = .ok found ∧
      regainedFile.scan (ScanSettings.excluding {} ["keep.js"]) "/p" = .ok found' ∧
      found'.PartOf found ∧ (⟨.top, ["p", "keep.js"]⟩ : Path) ∈ found.files ∧
      (⟨.top, ["p", "keep.js"]⟩ : Path) ∉ found'.files := by
  obtain ⟨hless, -, hnever⟩ := exclusion_only_removes regainedFile {} "/p"
  have hrules : regainedFile.ignoreRules ⟨.top, ["p"]⟩ [] = .ok regainedRules := by decide +kernel
  have hscan : regainedFile.scan {} "/p" = .ok ⟨⟨.top, ["p"]⟩, ⟨.top, ["p"]⟩,
      (regainedFile.sourceFiles ⟨regainedRules, defaultExtensions, false⟩ ["p"] ["p"]).map
        Workspace.pathOf⟩ := by
    have hfrom : regainedFile.scan {} "/p" = regainedFile.scanFrom {} ⟨.top, ["p"]⟩ := rfl
    rw [hfrom, Workspace.scanFrom]
    have hroot : regainedFile.projectRootAbove defaultManifests ⟨.top, ["p"]⟩ =
        .ok ⟨.top, ["p"]⟩ := by
      decide +kernel
    rw [hroot]
    dsimp only
    rw [if_neg (by decide +kernel), hrules]
  have hkept : (⟨.top, ["p", "keep.js"]⟩ : Path) ∈ (regainedFile.sourceFiles
      ⟨regainedRules, defaultExtensions, false⟩ ["p"] ["p"]).map Workspace.pathOf := by
    refine List.mem_map.mpr ⟨["p", "keep.js"], ?_, rfl⟩
    rw [Workspace.sourceFiles, List.mem_mergeSort, mem_distinct]
    decide +kernel
  rcases hless [] ["keep.js"] (List.nil_subset _) with
    ⟨e, he, -⟩ | ⟨found, found', hfound, hfound', hpart⟩
  · cases hscan.symm.trans he
  · obtain rfl := Except.ok.inj (hscan.symm.trans hfound)
    refine ⟨_, found', hscan, hfound', hpart, hkept, fun hmem => ?_⟩
    obtain ⟨-, hself, -⟩ := hnever ["keep.js"] found' hfound' (by decide +kernel) _ hmem
    have hid : found'.fileId ⟨.top, ["p", "keep.js"]⟩ = "keep.js" := by
      rw [ScanTarget.fileId, hpart.projectRoot]
      rfl
    rw [hid] at hself
    exact hself ⟨"keep.js", List.mem_singleton_self _, _, rfl, by decide +kernel⟩

end Preflight
