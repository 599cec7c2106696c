import Preflight.Proofs.FileTree.Walk
import Preflight.Proofs.Graph.Sources
import Preflight.Proofs.Text.LetterCase

/-!
# The import graph covers every scan

A scan walks from its target and looks for the suffixes of its settings, the import graph is made
by a walk from the top of the project that looks for all suffixes of script files. Below the
target both enter the same directories and leave out the same files. So what is scanned is what
the graph has below the target with one of the suffixes looked for, and every scanned file is
looked up in the graph under its own id.

## Main definitions

* `FileId.LiesUnder`: an id stands for something below a directory.
* `FileId.EndsIn`: an id ends in one of some suffixes, in any letter case.

## Main results

* `Workspace.mem_sourceFiles_below_iff`: a walk from a directory of a project, and one from the
  top of the project.
* `scan_agrees_with_graph`: the ids of a scan are the ids of the graph that it asks for.
-/

namespace Preflight

/-- An id of a project stands for something below a directory. -/
def FileId.LiesUnder (id : FileId) (root directory : Path) : Prop :=
  ((root.join (Path.ofString id)).relativeTo? directory).isSome = true

/-- An id ends in one of some suffixes, in any letter case. -/
def FileId.EndsIn (id : FileId) (extensions : List String) : Prop :=
  ∃ ext ∈ extensions, (Text.lowercase id).endsWith (Text.lowercase ext) = true

/-! ### What is looked for -/

namespace Selection

variable {rules : List IgnoreRule} {extensions : List String} {includeTests : Bool}

/-- A file is taken for one of the suffixes and for what else is asked of it. -/
theorem takes_iff {segments : List String} :
    takes ⟨rules, extensions, includeTests⟩ segments = true ↔
      FileId.EndsIn (segments.getLast?.getD "") extensions ∧
        ((Text.lowercase (segments.getLast?.getD "")).endsWith ".d.ts" = false ∧
          isIgnored rules (ruleText segments) false = false ∧
          (includeTests = true ∨ isTestFile ⟨.here, segments⟩ = false)) := by
  simp only [takes, takesName, FileId.EndsIn, Bool.and_eq_true, List.any_eq_true,
    Bool.not_eq_true', Bool.or_eq_true, and_assoc]

/-- More suffixes take more files, and those with the suffixes looked for are the same. -/
theorem takes_extensions_iff {more : List String} (h : ∀ ext ∈ extensions, ext ∈ more)
    {segments : List String} :
    takes ⟨rules, extensions, includeTests⟩ segments = true ↔
      takes ⟨rules, more, includeTests⟩ segments = true ∧
        FileId.EndsIn (segments.getLast?.getD "") extensions := by
  rw [takes_iff, takes_iff]
  constructor
  · rintro ⟨⟨ext, hext, hends⟩, hrest⟩
    exact ⟨⟨⟨ext, h ext hext, hends⟩, hrest⟩, ext, hext, hends⟩
  · rintro ⟨⟨-, hrest⟩, hends⟩
    exact ⟨hends, hrest⟩

end Selection

/-! ### Two walks -/

namespace Workspace

variable {w : Workspace} {rules : List IgnoreRule} {extensions : List String}

/-- The way from the top of a project to a place below a directory leads through the directory,
and every directory before is entered. -/
theorem exists_entersAll_iff (enters : Place → Bool) {base down : Place}
    (hentered : ∀ p, p ≠ [] → p <+: down → enters (base ++ p) = true) (name : String)
    (rest : Place) :
    (∃ first more, down ++ name :: rest = first :: more ∧
      EntersAll enters (base ++ [first]) more) ↔
      EntersAll enters (base ++ down ++ [name]) rest := by
  cases down with
  | nil =>
    rw [List.append_nil, List.nil_append]
    constructor
    · rintro ⟨first, more, heq, hmore⟩
      cases heq
      exact hmore
    · intro hrest
      exact ⟨name, rest, rfl, hrest⟩
  | cons first t =>
    have hsplit : EntersAll enters (base ++ [first]) (t ++ name :: rest) ↔
        EntersAll enters (base ++ first :: t ++ [name]) rest := by
      have ht : EntersAll enters (base ++ [first]) t := by
        refine entersAll_iff.mpr fun p hp _ => ?_
        rw [List.append_assoc, List.singleton_append]
        exact hentered _ (List.cons_ne_nil first p) ((List.prefix_cons_inj first).mpr hp)
      have hdown : enters (base ++ first :: t) = true :=
        hentered _ (List.cons_ne_nil first t) List.prefix_rfl
      rw [entersAll_append, EntersAll, List.append_assoc base, List.singleton_append]
      exact ⟨fun h => h.2.2, fun h => ⟨ht, hdown, h⟩⟩
    rw [← hsplit]
    constructor
    · rintro ⟨first', more, heq, hmore⟩
      cases heq
      exact hmore
    · intro h
      exact ⟨first, t ++ name :: rest, rfl, h⟩

/-- **A walk from a directory of a project, and one from the top of the project.** Where every
directory from the project down to the directory is entered, the walk from there takes what the
other takes below it, if with one of its suffixes. -/
theorem mem_sourceFiles_below_iff (hw : w.WellNamed) (hdistinct : w.DistinctNames)
    {more : List String} (hext : ∀ ext ∈ extensions, ext ∈ more) {base down : Place}
    (hentered : ∀ p, p ≠ [] → p <+: down → Selection.enters ⟨rules, extensions, false⟩ p = true)
    (hdirectory : w.isFile (pathOf (base ++ down)) = false) {place : Place} :
    place ∈ w.sourceFiles ⟨rules, extensions, false⟩ base (base ++ down) ↔
      place ∈ w.sourceFiles ⟨rules, more, false⟩ base base ∧ base ++ down <+: place ∧
        FileId.EndsIn ((placeBelow base place).getLast?.getD "") extensions := by
  have hdown : ∀ p, p ≠ [] → p <+: down →
      Selection.enters ⟨rules, extensions, false⟩ (placeBelow base (base ++ p)) = true := by
    simpa only [placeBelow_append] using hentered
  have hway := exists_entersAll_iff
    (fun p => Selection.enters ⟨rules, extensions, false⟩ (placeBelow base p)) hdown
  rw [mem_sourceFiles_iff hw hdistinct, mem_sourceFiles_iff hw hdistinct]
  constructor
  · rintro ⟨hfile, htakes, name, rest, rfl, hleaf, hrest⟩
    obtain ⟨htaken, hends⟩ := (Selection.takes_extensions_iff hext).mp htakes
    obtain ⟨first, below, heq, hbelow⟩ := (hway name rest).mpr hrest
    refine ⟨⟨hfile, htaken, first, below, ?_, hleaf, hbelow⟩, List.prefix_append _ _, hends⟩
    rw [List.append_assoc, heq]
  · rintro ⟨⟨hfile, htaken, first, below, heq, hleaf, hbelow⟩, ⟨tail, rfl⟩, hends⟩
    refine ⟨hfile, (Selection.takes_extensions_iff hext).mpr ⟨htaken, hends⟩, ?_⟩
    cases tail with
    | nil =>
      rw [List.append_nil, hdirectory] at hfile
      cases hfile
    | cons name rest =>
      rw [List.append_assoc, List.append_cancel_left_eq] at heq
      exact ⟨name, rest, rfl, hleaf, (hway name rest).mp ⟨first, below, heq, hbelow⟩⟩

end Workspace

/-! ### Ids -/

/-- No suffix of a script file holds a slash, in small letters either. -/
theorem slash_notMem_lowercase {ext : String} (h : ext ∈ graphExtensions) :
    '/' ∉ (Text.lowercase ext).toList := by
  have hall : ∀ ext ∈ graphExtensions, '/' ∉ (Text.lowercase ext).toList := by decide +kernel
  exact hall ext h

/-- An id ends in what its last name ends in. -/
theorem FileId.endsIn_intercalate_iff {extensions : List String}
    (hext : ∀ ext ∈ extensions, ext ∈ graphExtensions) {segments : List String}
    (hne : segments ≠ []) :
    FileId.EndsIn ("/".intercalate segments) extensions ↔
      FileId.EndsIn (segments.getLast?.getD "") extensions := by
  refine exists_congr fun ext => and_congr_right fun hmem => ?_
  rw [Text.endsWith_lowercase_intercalate hne (slash_notMem_lowercase (hext ext hmem))]

/-- A file that a walk from the top of a project takes, and what its id says about it. -/
theorem Workspace.id_of_mem_sourceFiles {w : Workspace} (hw : w.WellNamed)
    (hdistinct : w.DistinctNames) {root directory : Path} (htop : root.anchor = .top)
    (hdirectory : directory.anchor = .top) (hdirections : ∀ s ∈ root.segments, ¬isDirection s)
    {s : Selection} {place : Place} (h : place ∈ w.sourceFiles s root.segments root.segments)
    {extensions : List String} (hext : ∀ ext ∈ extensions, ext ∈ graphExtensions) :
    (FileId.LiesUnder ((pathOf place).seenFrom root) root directory ↔
      directory.segments <+: place) ∧
      (FileId.EndsIn ((pathOf place).seenFrom root) extensions ↔
        FileId.EndsIn ((placeBelow root.segments place).getLast?.getD "") extensions) := by
  obtain ⟨-, -, name, rest, rfl, -⟩ := (mem_sourceFiles_iff hw hdistinct).mp h
  have hne : name :: rest ≠ [] := List.cons_ne_nil name rest
  have hnames : ∀ t ∈ name :: rest, isFileName t = true := fun t ht =>
    names_of_mem_sourceFiles hw hdirections h t (List.mem_append_right _ ht)
  rw [Path.seenFrom_pathOf_append htop hne, placeBelow_append]
  refine ⟨?_, FileId.endsIn_intercalate_iff hext hne⟩
  rw [FileId.LiesUnder, Path.join_ofString_intercalate htop hne hnames]
  exact Path.isSome_relativeTo?_iff hdirectory.symm

/-- No directory from the top of the project down to the target of a scan, the target included, is
known to hold no sources or left out by some rules. -/
def ScanTarget.InSight (target : ScanTarget) (rules : List IgnoreRule) : Prop :=
  ∀ p, p ≠ [] → p <+: placeBelow target.projectRoot.segments target.scanRoot.segments →
    excludedDirectories.contains (p.getLast?.getD "") = false ∧
      isIgnored rules (Selection.ruleText p) true = false

/-- The files of a scan, among those of a walk from the top of the project. -/
theorem Workspace.mem_scan_files_iff {w : Workspace} (hw : w.WellNamed)
    (hdistinct : w.DistinctNames) {settings : ScanSettings} {name : String} {found : ScanTarget}
    (hscan : w.scan settings name = .ok found) (hdirectory : w.scansDirectory name = true)
    (hext : ∀ ext ∈ settings.extensions, ext ∈ graphExtensions) {rules : List IgnoreRule}
    (hrules : w.ignoreRules found.projectRoot settings.excludePaths = .ok rules)
    (hsight : found.InSight rules) {place : Place} :
    place ∈ w.sourceFiles ⟨rules, settings.extensions, false⟩ found.projectRoot.segments
        found.scanRoot.segments ↔
      place ∈ w.sourceFiles ⟨rules, graphExtensions, false⟩ found.projectRoot.segments
          found.projectRoot.segments ∧
        FileId.LiesUnder ((pathOf place).seenFrom found.projectRoot) found.projectRoot
          found.scanRoot ∧
        FileId.EndsIn ((pathOf place).seenFrom found.projectRoot) settings.extensions := by
  obtain ⟨-, hnoFile, -⟩ := scan_directory hscan hdirectory hrules
  obtain ⟨htop, hanchor, hdirections, down, hdown⟩ :=
    scan_directory_places hscan hdirectory hrules
  have hentered : ∀ p, p ≠ [] → p <+: down →
      Selection.enters ⟨rules, settings.extensions, false⟩ p = true := by
    intro p hne hp
    obtain ⟨hexcluded, hignored⟩ := hsight p hne (by rwa [← hdown, placeBelow_append])
    rw [Selection.enters, hexcluded, hignored]
    rfl
  have hnoFile' : w.isFile (pathOf (found.projectRoot.segments ++ down)) = false := by
    rwa [hdown, pathOf_segments hanchor]
  rw [← hdown, mem_sourceFiles_below_iff hw hdistinct hext hentered hnoFile', hdown]
  refine and_congr_right fun hplace => ?_
  obtain ⟨hlies, hends⟩ :=
    id_of_mem_sourceFiles hw hdistinct htop hanchor hdirections hplace hext
  rw [hlies, hends]

/-- **Scans and import graphs agree on the files.** Take a directory of a project, and suffixes of
script files to look for. If no directory from the top of the project down to that directory, this
one included, is known to hold no sources or left out by the rules, then the project has an import
graph, the ids of the scan are those ids of the graph that stand for something below the directory
and end in one of the suffixes, and the graph knows every one of them for itself, not by its
stem. -/
theorem scan_agrees_with_graph {w : Workspace} (hw : w.WellNamed) (hdistinct : w.DistinctNames)
    {settings : ScanSettings} {name : String} {found : ScanTarget}
    (hscan : w.scan settings name = .ok found) (hdirectory : w.scansDirectory name = true)
    (hext : ∀ ext ∈ settings.extensions, ext ∈ graphExtensions) {rules : List IgnoreRule}
    (hrules : w.ignoreRules found.projectRoot settings.excludePaths = .ok rules)
    (hsight : found.InSight rules) :
    ∃ g, (Workspace.buildGraph { excludePaths := settings.excludePaths } w
        found.projectRoot).result = .ok g ∧
      (∀ id, id ∈ found.files.map found.fileId ↔
        id ∈ g.nodes ∧ FileId.LiesUnder id found.projectRoot found.scanRoot ∧
          FileId.EndsIn id settings.extensions) ∧
      ∀ file ∈ found.files, g.resolve (found.fileId file) = [found.fileId file] := by
  obtain ⟨-, -, -, hfiles⟩ := Workspace.scan_directory hscan hdirectory hrules
  have hplaces := fun place => @Workspace.mem_scan_files_iff w hw hdistinct settings name found
    hscan hdirectory hext rules hrules hsight place
  obtain ⟨sources, hsources, hids⟩ :=
    Workspace.map_fst_graphSources { excludePaths := settings.excludePaths } hrules
  have hnodes : ∀ id, id ∈ (ImportGraph.ofSources sources).nodes ↔
      ∃ place ∈ w.sourceFiles ⟨rules, graphExtensions, false⟩ found.projectRoot.segments
        found.projectRoot.segments, (Workspace.pathOf place).seenFrom found.projectRoot = id := by
    intro id
    rw [ImportGraph.mem_nodes_ofSources, hids, List.mem_map]
  have hscanned : ∀ id, id ∈ found.files.map found.fileId ↔
      ∃ place ∈ w.sourceFiles ⟨rules, settings.extensions, false⟩ found.projectRoot.segments
        found.scanRoot.segments, (Workspace.pathOf place).seenFrom found.projectRoot = id := by
    intro id
    rw [hfiles, List.map_map, List.mem_map]
    rfl
  refine ⟨(ImportGraph.ofSources sources).dependencies,
    Workspace.buildGraph_eq_ok_iff.mpr ⟨sources, hsources, rfl⟩, fun id => ?_, fun file hfile => ?_⟩
  · rw [hscanned]
    constructor
    · rintro ⟨place, hplace, rfl⟩
      obtain ⟨hnode, hlies, hends⟩ := (hplaces place).mp hplace
      exact ⟨(hnodes _).mpr ⟨place, hnode, rfl⟩, hlies, hends⟩
    · rintro ⟨hnode, hlies, hends⟩
      obtain ⟨place, hplace, rfl⟩ := (hnodes id).mp hnode
      exact ⟨place, (hplaces place).mpr ⟨hplace, hlies, hends⟩, rfl⟩
  · obtain ⟨place, hplace, hid⟩ := (hscanned _).mp (List.mem_map_of_mem hfile)
    refine ImportGraph.resolve_dependencies ((hnodes _).mpr ⟨place, ?_, hid⟩)
    exact ((hplaces place).mp hplace).1

/-- A project with sources at its top and in a directory. -/
def libraryFiles : Workspace :=
  { top := .directory [("p", .directory [("package.json", .file []), ("main.mjs", .file []),
      ("lib", .directory [("a.ts", .file []), ("a.js", .file [])])])]
    current := []
    home := [] }

/-- The directory of a project with sources, seen from there and from the top of the project. -/
theorem scan_agrees_with_graph_library :
    ∃ found g, libraryFiles.scan {} "/p/lib" = .ok found ∧
      (Workspace.buildGraph {} libraryFiles found.projectRoot).result = .ok g ∧
      ∀ id, id ∈ found.files.map found.fileId ↔
        id ∈ g.nodes ∧ FileId.LiesUnder id ⟨.top, ["p"]⟩ ⟨.top, ["p", "lib"]⟩ ∧
          FileId.EndsIn id defaultExtensions := by
  have hscan : libraryFiles.scan {} "/p/lib" = .ok ⟨⟨.top, ["p"]⟩, ⟨.top, ["p", "lib"]⟩,
      (libraryFiles.sourceFiles ⟨[], defaultExtensions, false⟩ ["p"] ["p", "lib"]).map
        Workspace.pathOf⟩ := rfl
  have hnamed : libraryFiles.WellNamed := by
    rw [Workspace.WellNamed]
    decide
  have hdistinct : libraryFiles.DistinctNames := by
    rw [Workspace.DistinctNames]
    decide
  have hsight : ∀ p, p ≠ [] → p <+: ["lib"] →
      excludedDirectories.contains (p.getLast?.getD "") = false ∧
        isIgnored [] (Selection.ruleText p) true = false := by
    intro p hne hp
    obtain rfl | ⟨t, rfl, ht⟩ := List.prefix_cons_iff.mp hp
    · exact absurd rfl hne
    · rw [List.prefix_nil.mp ht]
      exact ⟨by decide, rfl⟩
  have hrules : libraryFiles.ignoreRules ⟨.top, ["p"]⟩ [] = .ok [] := rfl
  obtain ⟨g, hg, hids, -⟩ :=
    scan_agrees_with_graph hnamed hdistinct hscan rfl (by decide) hrules hsight
  exact ⟨_, g, hscan, hg, hids⟩

end Preflight
