import Preflight.Proofs.FileTree.RealPath
import Preflight.Proofs.FileTree.Walk

/-!
# What a walk meets

A walk prunes: it leaves out a directory with all that is below it, and then looks at what it meets
file by file. Nothing else is lost by this and nothing is met twice. A file is taken exactly when no
directory on the way to it is left out and it is looked for itself, and where rules disagree the
last one that matches decides.

## Main definitions

* `LeftOut`: the last rule that matches leaves a path out.
* `Workspace.RegularAt`: there is a file at a place, or a link that leads to one.
* `Workspace.Meets`: a file is met, by the directories on the way to it and its name.

## Main results

* `isIgnored_iff_leftOut`: the last rule that matches decides.
* `Workspace.sourceWalk_nodup`: nothing is met twice.
* `Workspace.mem_sourceWalk_iff`: what is met.
* `Workspace.walk_complete`: both, and the files of a scan are what is met, in order.
-/

namespace Preflight

/-! ### The last rule that matches -/

/-- Some rules leave a path out: the last of them that covers it does not take it back in. -/
def LeftOut (rules : List IgnoreRule) (path : List Char) (isDirectory : Bool) : Prop :=
  ∃ before rule after, rules = before ++ rule :: after ∧ rule.covers path isDirectory = true ∧
    rule.negate = false ∧ ∀ later ∈ after, later.covers path isDirectory = false

variable {rules : List IgnoreRule} {path : List Char} {isDirectory : Bool}

theorem leftOut_cons_iff {rule : IgnoreRule} :
    LeftOut (rule :: rules) path isDirectory ↔
      LeftOut rules path isDirectory ∨ rule.covers path isDirectory = true ∧
        rule.negate = false ∧ ∀ later ∈ rules, later.covers path isDirectory = false := by
  constructor
  · rintro ⟨before, last, after, heq, hlast⟩
    cases before with
    | nil =>
      cases heq
      exact Or.inr hlast
    | cons first before =>
      cases heq
      exact Or.inl ⟨before, last, after, rfl, hlast⟩
  · rintro (⟨before, last, after, rfl, hlast⟩ | hfirst)
    · exact ⟨rule :: before, last, after, rfl, hlast⟩
    · exact ⟨[], rule, rules, rfl, hfirst⟩

/-- Rules decide against what was decided before, unless none of them matches. -/
theorem foldl_covers_eq_true_iff (ignored : Bool) :
    rules.foldl (fun ignored rule =>
        if rule.covers path isDirectory then !rule.negate else ignored) ignored = true ↔
      LeftOut rules path isDirectory ∨
        ignored = true ∧ ∀ rule ∈ rules, rule.covers path isDirectory = false := by
  induction rules generalizing ignored with
  | nil => simp [LeftOut]
  | cons rule rules ih =>
    rw [List.foldl_cons, ih, leftOut_cons_iff, List.forall_mem_cons]
    cases hcovers : rule.covers path isDirectory with
    | false => simp
    | true => simp

/-- **The last rule that matches decides.** -/
theorem isIgnored_iff_leftOut :
    isIgnored rules path isDirectory = true ↔ LeftOut rules path isDirectory := by
  rw [isIgnored, foldl_covers_eq_true_iff]
  exact or_iff_left fun h => Bool.false_ne_true h.1

instance : Decidable (LeftOut rules path isDirectory) :=
  decidable_of_iff (isIgnored rules path isDirectory = true) isIgnored_iff_leftOut

/-! ### Nothing is met twice -/

mutual

/-- A walk finds nothing twice at an entry and below it. -/
theorem Entry.nodup_filesAt {enters : Place → Bool} {place : Place} {e : Entry}
    (hnamed : e.wellNamed = true) (hdistinct : e.distinctNames = true) :
    (e.filesAt enters place).Nodup := by
  cases e with
  | file _ | link _ => exact List.nodup_singleton place
  | directory es =>
    rw [Entry.filesAt]
    split
    · exact Entry.nodup_filesBelowAll hnamed hdistinct
    · exact List.nodup_nil

/-- A walk finds nothing twice below some entries: what is found below two of them differs in the
name of the entry. -/
theorem Entry.nodup_filesBelowAll {enters : Place → Bool} {place : Place}
    {es : List (String × Entry)} (hnamed : wellNamedAll es = true)
    (hdistinct : distinctNamesAll es = true) : (filesBelowAll enters place es).Nodup := by
  match es with
  | [] => exact List.nodup_nil
  | (name, e) :: rest =>
    obtain ⟨-, he, hrest⟩ := wellNamedAll_cons.mp hnamed
    obtain ⟨hnew, hdistinctE, hdistinctRest⟩ := distinctNamesAll_cons.mp hdistinct
    rw [filesBelowAll, List.nodup_append']
    refine ⟨Entry.nodup_filesAt he hdistinctE, Entry.nodup_filesBelowAll hrest hdistinctRest,
      fun p hfirst hlater => ?_⟩
    obtain ⟨below, rfl, -⟩ := Workspace.names_of_mem_filesAt he hfirst
    rw [List.append_assoc, List.singleton_append,
      append_cons_mem_filesBelowAll_iff hrest hdistinctRest] at hlater
    obtain ⟨other, hlookup, -⟩ := hlater
    exact hnew (List.mem_map_of_mem ((mem_iff_lookup hdistinctRest).mpr hlookup))

end

/-! ### What is met -/

namespace Selection

variable {s : Selection} {above : List String} {name : String}

/-- A directory is entered unless it is known to hold no sources or left out. -/
theorem enters_concat_iff :
    s.enters (above ++ [name]) = true ↔
      name ∉ excludedDirectories ∧ ¬LeftOut s.rules (ruleText (above ++ [name])) true := by
  rw [enters, List.getLast?_concat, Option.getD_some, Bool.and_eq_true, Bool.not_eq_true',
    Bool.not_eq_true', ← isIgnored_iff_leftOut, Bool.not_eq_true, ← Bool.not_eq_true,
    List.contains_iff_mem]

/-- A file is taken for its suffix, unless it is a declaration file, left out or a test that is not
asked for. -/
theorem takes_concat_iff :
    s.takes (above ++ [name]) = true ↔
      ((∃ ext ∈ s.extensions, (Text.lowercase name).endsWith (Text.lowercase ext) = true) ∧
        (Text.lowercase name).endsWith ".d.ts" = false) ∧
        ¬LeftOut s.rules (ruleText (above ++ [name])) false ∧
        (s.includeTests = true ∨ isTestFile ⟨.here, above ++ [name]⟩ = false) := by
  simp only [takes, takesName, List.getLast?_concat, Option.getD_some, Bool.and_eq_true,
    List.any_eq_true, Bool.not_eq_true', Bool.or_eq_true, and_assoc, ← isIgnored_iff_leftOut,
    Bool.not_eq_true]

end Selection

/-- Every directory on the way to a name is entered, the one the way starts from set aside. -/
theorem exists_entersAll_concat_iff {enters : Place → Bool} {root dirs : Place} {name : String} :
    (∃ first rest, dirs ++ [name] = first :: rest ∧ EntersAll enters (root ++ [first]) rest) ↔
      ∀ above directory, above ++ [directory] <+: dirs →
        enters (root ++ (above ++ [directory])) = true := by
  cases dirs with
  | nil =>
    refine iff_of_true ⟨name, [], rfl, trivial⟩ fun above directory h => ?_
    exact absurd (List.prefix_nil.mp h) (by simp)
  | cons first more =>
    have hway : (∃ first' rest, first :: more ++ [name] = first' :: rest ∧
        EntersAll enters (root ++ [first']) rest) ↔
        EntersAll enters (root ++ [first]) (more ++ [name]) := by
      constructor
      · rintro ⟨first', rest, heq, hrest⟩
        cases heq
        exact hrest
      · exact fun h => ⟨first, more ++ [name], rfl, h⟩
    rw [hway, entersAll_iff]
    constructor
    · intro h above directory hprefix
      rcases List.prefix_cons_iff.mp hprefix with hnil | ⟨t, ht, hmore⟩
      · exact absurd hnil (by simp)
      · have hshort : t ≠ more ++ [name] := by
          rintro rfl
          have hlength := hmore.length_le
          rw [List.length_append, List.length_singleton] at hlength
          omega
        have hentered := h t (hmore.trans (List.prefix_append more [name])) hshort
        rwa [ht, ← List.singleton_append, ← List.append_assoc]
    · intro h p hp hne
      have hmore : p <+: more := (List.prefix_concat_iff.mp hp).resolve_left hne
      obtain ⟨above, directory, hsplit⟩ :=
        (List.eq_nil_or_concat (first :: p)).resolve_left (List.cons_ne_nil first p)
      rw [List.concat_eq_append] at hsplit
      have hentered := h above directory (hsplit ▸ (List.prefix_cons_inj first).mpr hmore)
      rwa [← hsplit, ← List.singleton_append, ← List.append_assoc] at hentered

namespace Workspace

variable {w : Workspace} {s : Selection} {base down root place : Place}

/-- There is a file at a place, or a link that leads to one. -/
def RegularAt (w : Workspace) (place : Place) : Prop :=
  (∃ content, w.top.at? place = some (.file content)) ∨
    ∃ target, w.top.at? place = some (.link target) ∧ w.isFile (pathOf place) = true

/-- What is no directory and a file for whoever opens it is a file or a link to one. -/
theorem regularAt_iff (hw : w.WellNamed) (hfit : w.NamesFit) :
    w.RegularAt place ↔ w.top.LeafAt place ∧ w.isFile (pathOf place) = true := by
  constructor
  · rintro (⟨content, hat⟩ | ⟨target, hat, hfile⟩)
    · exact ⟨⟨_, hat, rfl⟩,
        isFile_iff.mpr ⟨content, entry_pathOf (hfit.isPlain_of_at? hw hat) hat rfl⟩⟩
    · exact ⟨⟨_, hat, rfl⟩, hfile⟩
  · rintro ⟨⟨leaf, hat, hleaf⟩, hfile⟩
    cases leaf with
    | file content => exact Or.inl ⟨content, hat⟩
    | link target => exact Or.inr ⟨target, hat, hfile⟩
    | directory es => cases hleaf

/-- **A walk meets nothing twice.** -/
theorem sourceWalk_nodup (hw : w.WellNamed) (hdistinct : w.DistinctNames) :
    (w.sourceWalk s base root).Nodup := by
  rw [sourceWalk]
  refine List.Nodup.filter _ ?_
  split
  · next e he =>
    have hnamed := Entry.wellNamed_of_at? hw he
    have hnames := Entry.distinctNames_of_at? hdistinct he
    cases e with
    | file _ | link _ => exact List.nodup_nil
    | directory es => exact Entry.nodup_filesBelowAll hnamed hnames
  · exact List.nodup_nil

theorem mem_sourceFiles_iff_mem_sourceWalk :
    place ∈ w.sourceFiles s base root ↔ place ∈ w.sourceWalk s base root := by
  rw [sourceFiles, List.mem_mergeSort, mem_distinct]

/-- A file is met: given the way from the project down to where a walk starts, the directories from
there on and the name of the file. Rules see the whole way from the project. -/
structure Meets (w : Workspace) (s : Selection) (base down dirs : Place) (name : String) :
    Prop where
  regular : w.RegularAt (base ++ down ++ (dirs ++ [name]))
  entered : ∀ above directory, above ++ [directory] <+: dirs →
    directory ∉ excludedDirectories ∧
      ¬LeftOut s.rules (Selection.ruleText (down ++ above ++ [directory])) true
  suffix : ∃ ext ∈ s.extensions, (Text.lowercase name).endsWith (Text.lowercase ext) = true
  noDeclaration : (Text.lowercase name).endsWith ".d.ts" = false
  kept : ¬LeftOut s.rules (Selection.ruleText (down ++ dirs ++ [name])) false
  wanted : s.includeTests = true ∨ isTestFile ⟨.here, down ++ dirs ++ [name]⟩ = false

theorem meets_iff (hw : w.WellNamed) (hfit : w.NamesFit) {dirs : Place} {name : String} :
    w.Meets s base down dirs name ↔
      w.isFile (pathOf (base ++ down ++ (dirs ++ [name]))) = true ∧
        s.takes (down ++ dirs ++ [name]) = true ∧
        w.top.LeafAt (base ++ down ++ (dirs ++ [name])) ∧
        ∀ above directory, above ++ [directory] <+: dirs →
          s.enters (down ++ above ++ [directory]) = true := by
  simp only [Selection.enters_concat_iff, Selection.takes_concat_iff]
  constructor
  · rintro ⟨hregular, hentered, hsuffix, hdeclaration, hkept, hwanted⟩
    obtain ⟨hleaf, hfile⟩ := (regularAt_iff hw hfit).mp hregular
    exact ⟨hfile, ⟨⟨hsuffix, hdeclaration⟩, hkept, hwanted⟩, hleaf, hentered⟩
  · rintro ⟨hfile, ⟨⟨hsuffix, hdeclaration⟩, hkept, hwanted⟩, hleaf, hentered⟩
    exact ⟨(regularAt_iff hw hfit).mpr ⟨hleaf, hfile⟩, hentered, hsuffix, hdeclaration, hkept,
      hwanted⟩

/-- **What a walk meets.** -/
theorem mem_sourceWalk_iff (hw : w.WellNamed) (hdistinct : w.DistinctNames) (hfit : w.NamesFit) :
    place ∈ w.sourceWalk s base (base ++ down) ↔
      ∃ dirs name, place = base ++ down ++ (dirs ++ [name]) ∧ w.Meets s base down dirs name := by
  have hbelow : ∀ above name,
      placeBelow base (base ++ down ++ (above ++ [name])) = down ++ above ++ [name] := by
    intro above name
    rw [List.append_assoc, List.append_assoc, placeBelow_append]
  have hway : ∀ dirs name, (∃ first rest, dirs ++ [name] = first :: rest ∧
      EntersAll (fun p => s.enters (placeBelow base p)) (base ++ down ++ [first]) rest) ↔
      ∀ above directory, above ++ [directory] <+: dirs →
        s.enters (down ++ above ++ [directory]) = true := by
    intro dirs name
    simp only [exists_entersAll_concat_iff, hbelow]
  rw [← mem_sourceFiles_iff_mem_sourceWalk, mem_sourceFiles_iff hw hdistinct]
  constructor
  · rintro ⟨hfile, htakes, first, rest, rfl, hleaf, hentered⟩
    obtain ⟨dirs, name, hsplit⟩ :=
      (List.eq_nil_or_concat (first :: rest)).resolve_left (List.cons_ne_nil first rest)
    rw [List.concat_eq_append] at hsplit
    have hdirs := (hway dirs name).mp ⟨first, rest, hsplit.symm, hentered⟩
    rw [hsplit] at hfile htakes hleaf ⊢
    rw [hbelow] at htakes
    exact ⟨dirs, name, rfl, (meets_iff hw hfit).mpr ⟨hfile, htakes, hleaf, hdirs⟩⟩
  · rintro ⟨dirs, name, rfl, hmeets⟩
    obtain ⟨hfile, htakes, hleaf, hdirs⟩ := (meets_iff hw hfit).mp hmeets
    obtain ⟨first, rest, hsplit, hrest⟩ := (hway dirs name).mpr hdirs
    refine ⟨hfile, ?_, first, rest, by rw [hsplit], hleaf, hrest⟩
    rwa [hbelow]

/-- **The walk of a directory loses nothing and repeats nothing.** It meets each file once, and the
files it meets are those with directories on the way that are entered and a name that is looked for.
So the files of a scan are what is met, in order. -/
theorem walk_complete (hw : w.WellNamed) (hdistinct : w.DistinctNames) (hfit : w.NamesFit)
    (s : Selection) (base down : Place) :
    (w.sourceWalk s base (base ++ down)).Nodup ∧
      (∀ place, place ∈ w.sourceWalk s base (base ++ down) ↔
        ∃ dirs name, place = base ++ down ++ (dirs ++ [name]) ∧ w.Meets s base down dirs name) ∧
      w.sourceFiles s base (base ++ down) =
        (w.sourceWalk s base (base ++ down)).mergeSort comesNoLater := by
  have hnodup : (w.sourceWalk s base (base ++ down)).Nodup := sourceWalk_nodup hw hdistinct
  refine ⟨hnodup, fun place => mem_sourceWalk_iff hw hdistinct hfit, ?_⟩
  rw [sourceFiles, distinct_of_nodup hnodup]

end Workspace

/-! ### A project with sources that are left out -/

/-- A project with a directory of sources, one of them in a directory that is made by a tool. -/
def toolProject : Workspace :=
  { top := .directory [("p", .directory [("src", .directory
      [("api", .directory [("users.ts", .file [])]), ("gen", .directory [("client.ts", .file [])]),
        ("Main.TSX", .link "api/users.ts")])])]
    current := []
    home := [] }

/-- What is looked for there: nothing that the tool makes. -/
def toolSelection : Selection :=
  { rules := [⟨"src/gen".toList, true, true, false, true⟩]
    extensions := [".ts", ".tsx"]
    includeTests := false }

/-- A walk of the sources meets a file below and a link, each once, and not what the tool made. -/
theorem walk_complete_toolProject :
    (toolProject.sourceWalk toolSelection ["p"] ["p", "src"]).Nodup ∧
      ["p", "src", "api", "users.ts"] ∈ toolProject.sourceWalk toolSelection ["p"] ["p", "src"] ∧
      ["p", "src", "Main.TSX"] ∈ toolProject.sourceWalk toolSelection ["p"] ["p", "src"] ∧
      ["p", "src", "gen", "client.ts"] ∉
        toolProject.sourceWalk toolSelection ["p"] ["p", "src"] := by
  have hnames : toolProject.top.names =
      ["p", "src", "api", "users.ts", "gen", "client.ts", "Main.TSX"] := rfl
  have hfit : toolProject.NamesFit := by
    rw [Workspace.NamesFit, hnames]
    decide +kernel
  obtain ⟨hnodup, hmem, -⟩ := Workspace.walk_complete (w := toolProject)
    (by rw [Workspace.WellNamed]; rfl) (by rw [Workspace.DistinctNames]; rfl) hfit toolSelection
    ["p"] ["src"]
  refine ⟨hnodup, (hmem _).mpr ⟨["api"], "users.ts", rfl, ?_⟩,
    (hmem _).mpr ⟨[], "Main.TSX", rfl, ?_⟩, fun hgen => ?_⟩
  · refine ⟨Or.inl ⟨[], rfl⟩, fun above directory h => ?_, ⟨".ts", by decide +kernel⟩,
      by decide +kernel, by decide +kernel, by decide +kernel⟩
    obtain ⟨t, ht, hnil⟩ := (List.prefix_cons_iff.mp h).resolve_left (by simp)
    rw [List.prefix_nil.mp hnil] at ht
    have hsplit : above ++ [directory] = [] ++ ["api"] := ht
    obtain ⟨rfl, hlast⟩ := List.append_inj' hsplit rfl
    obtain rfl := (List.cons.inj hlast).1
    decide +kernel
  · refine ⟨Or.inr ⟨"api/users.ts", rfl, by decide +kernel⟩, fun above directory h => ?_,
      ⟨".tsx", by decide +kernel⟩, by decide +kernel, by decide +kernel, by decide +kernel⟩
    exact absurd (List.prefix_nil.mp h) (by simp)
  · obtain ⟨dirs, name, heq, hmeets⟩ := (hmem _).mp hgen
    have hway : ["gen"] ++ ["client.ts"] = dirs ++ [name] := by simpa using heq
    obtain ⟨rfl, -⟩ := List.append_inj' hway rfl
    exact (hmeets.entered [] "gen" List.prefix_rfl).2 (by decide +kernel)

end Preflight
