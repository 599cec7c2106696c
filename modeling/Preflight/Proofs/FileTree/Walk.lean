import Preflight.Proofs.FileTree.Names

/-!
# What a walk takes

No directory of a file system holds two entries of one name. In such a tree a walk finds a place
exactly when there is something else than a directory and every directory on the way is entered.
What a walk takes is a sorted list without repetitions, so it is known from its members.

## Main definitions

* `Entry.distinctNames`, `Workspace.DistinctNames`: trees without two entries of one name.
* `Entry.LeafAt`: there is something else than a directory at a place.
* `EntersAll`: every directory on the way from one place to another is entered.

## Main results

* `mem_filesAt_iff`: what is found at an entry or below it.
* `Workspace.mem_sourceFiles_iff`: what a walk takes.
* `Workspace.sourceFiles_ext`: walks that take the same files take them in the same order.
-/

namespace Preflight

/-! ### Distinct names -/

mutual

/-- No directory of a tree holds two entries of one name. -/
def Entry.distinctNames : Entry → Bool
  | .file _ => true
  | .link _ => true
  | .directory es => Entry.distinctNamesAll es

/-- No two of some entries have one name, and neither have two entries of a directory below. -/
def Entry.distinctNamesAll : List (String × Entry) → Bool
  | [] => true
  | (name, e) :: rest =>
    !(rest.map (·.1)).contains name && Entry.distinctNames e && Entry.distinctNamesAll rest

end

/-- A file tree as a file system holds it: no directory has two entries of one name. -/
def Workspace.DistinctNames (w : Workspace) : Prop := w.top.distinctNames = true

namespace Entry

theorem distinctNamesAll_cons {name : String} {e : Entry} {rest : List (String × Entry)} :
    distinctNamesAll ((name, e) :: rest) = true ↔
      name ∉ rest.map (·.1) ∧ e.distinctNames = true ∧ distinctNamesAll rest = true := by
  rw [distinctNamesAll, Bool.and_eq_true, Bool.and_eq_true, and_assoc, Bool.not_eq_true',
    ← Bool.not_eq_true, List.contains_iff_mem]

/-- Where names are distinct, every entry is the one its name stands for. -/
theorem mem_iff_lookup {es : List (String × Entry)} (h : distinctNamesAll es = true)
    {name : String} {e : Entry} : (name, e) ∈ es ↔ es.lookup name = some e := by
  induction es with
  | nil => exact iff_of_false List.not_mem_nil nofun
  | cons entry rest ih =>
    obtain ⟨n, old⟩ := entry
    obtain ⟨hnew, -, hrest⟩ := distinctNamesAll_cons.mp h
    rw [List.mem_cons, Prod.mk.injEq, List.lookup_cons]
    by_cases hn : name = n
    · subst hn
      have hnone : (name, e) ∉ rest := fun hmem => hnew (List.mem_map_of_mem hmem)
      simp [hnone, eq_comm]
    · rw [beq_eq_false_iff_ne.mpr hn, ← ih hrest]
      exact or_iff_right fun heq => hn heq.1

theorem distinctNames_of_lookup {es : List (String × Entry)} (h : distinctNamesAll es = true)
    {name : String} {e : Entry} (he : es.lookup name = some e) : e.distinctNames = true := by
  induction es with
  | nil => cases he
  | cons entry rest ih =>
    obtain ⟨n, old⟩ := entry
    obtain ⟨-, hold, hrest⟩ := distinctNamesAll_cons.mp h
    rw [List.lookup_cons] at he
    split at he
    · obtain rfl := Option.some.inj he
      exact hold
    · exact ih hrest he

theorem distinctNames_of_at? {e e' : Entry} {place : Place} (h : e.distinctNames = true)
    (hat : e.at? place = some e') : e'.distinctNames = true := by
  induction place generalizing e with
  | nil =>
    obtain rfl := Option.some.inj hat
    exact h
  | cons name rest ih =>
    obtain ⟨c, hc, hrest⟩ := Option.bind_eq_some_iff.mp hat
    cases e with
    | file _ => cases hc
    | link _ => cases hc
    | directory es => exact ih (distinctNames_of_lookup h hc) hrest

end Entry

/-! ### What is found -/

/-- There is something else than a directory at a place. -/
def Entry.LeafAt (e : Entry) (place : Place) : Prop :=
  ∃ leaf, e.at? place = some leaf ∧ leaf.isDirectory = false

namespace Entry

theorem leafAt_append {e : Entry} {p q : Place} :
    e.LeafAt (p ++ q) ↔ ∃ c, e.at? p = some c ∧ c.LeafAt q := by
  constructor
  · rintro ⟨leaf, hat, hleaf⟩
    rw [at?_append] at hat
    obtain ⟨c, hc, hq⟩ := Option.bind_eq_some_iff.mp hat
    exact ⟨c, hc, leaf, hq, hleaf⟩
  · rintro ⟨c, hc, leaf, hq, hleaf⟩
    exact ⟨leaf, by rw [at?_append, hc]; exact hq, hleaf⟩

theorem leafAt_cons {e : Entry} {name : String} {rest : Place} :
    e.LeafAt (name :: rest) ↔ ∃ c, e.entries.lookup name = some c ∧ c.LeafAt rest := by
  constructor
  · rintro ⟨leaf, hat, hleaf⟩
    obtain ⟨c, hc, hrest⟩ := Option.bind_eq_some_iff.mp hat
    exact ⟨c, hc, leaf, hrest, hleaf⟩
  · rintro ⟨c, hc, leaf, hrest, hleaf⟩
    exact ⟨leaf, Option.bind_eq_some_iff.mpr ⟨c, hc, hrest⟩, hleaf⟩

end Entry

/-- Every directory is entered on the way from a place to another below it, the first place
counted, the last one not. -/
def EntersAll (enters : Place → Bool) (place : Place) : Place → Prop
  | [] => True
  | name :: rest => enters place = true ∧ EntersAll enters (place ++ [name]) rest

theorem entersAll_append {enters : Place → Bool} {place p q : Place} :
    EntersAll enters place (p ++ q) ↔
      EntersAll enters place p ∧ EntersAll enters (place ++ p) q := by
  induction p generalizing place with
  | nil => simp [EntersAll]
  | cons name rest ih =>
    rw [List.cons_append, EntersAll, EntersAll, ih, and_assoc, List.append_assoc,
      List.singleton_append]

/-- The way is entered as soon as every directory on it is. -/
theorem entersAll_iff {enters : Place → Bool} {place below : Place} :
    EntersAll enters place below ↔
      ∀ p, p <+: below → p ≠ below → enters (place ++ p) = true := by
  induction below generalizing place with
  | nil =>
    refine iff_of_true trivial fun p hp hne => ?_
    exact absurd (List.prefix_nil.mp hp) hne
  | cons name rest ih =>
    rw [EntersAll, ih]
    constructor
    · rintro ⟨hplace, hrest⟩ p hp hne
      rcases List.prefix_cons_iff.mp hp with rfl | ⟨t, rfl, ht⟩
      · rwa [List.append_nil]
      · have := hrest t ht (fun heq => hne (heq ▸ rfl))
        rwa [List.append_assoc, List.singleton_append] at this
    · intro h
      refine ⟨?_, fun p hp hne => ?_⟩
      · have := h [] (List.nil_prefix) nofun
        rwa [List.append_nil] at this
      · have := h (name :: p) ((List.prefix_cons_inj name).mpr hp) (by simpa using hne)
        rwa [List.append_assoc, List.singleton_append]

namespace Entry

theorem mem_filesBelowAll {enters : Place → Bool} {place p : Place}
    {es : List (String × Entry)} :
    p ∈ filesBelowAll enters place es ↔
      ∃ name e, (name, e) ∈ es ∧ p ∈ e.filesAt enters (place ++ [name]) := by
  induction es with
  | nil => simp [filesBelowAll]
  | cons entry rest ih =>
    obtain ⟨n, e⟩ := entry
    rw [filesBelowAll, List.mem_append, ih]
    constructor
    · rintro (h | ⟨name, e', hmem, h⟩)
      · exact ⟨n, e, List.mem_cons_self .., h⟩
      · exact ⟨name, e', List.mem_cons_of_mem _ hmem, h⟩
    · rintro ⟨name, e', hmem, h⟩
      rcases List.mem_cons.mp hmem with heq | hmem
      · cases heq
        exact Or.inl h
      · exact Or.inr ⟨name, e', hmem, h⟩

/-- What a walk finds below some entries is below the one that the next name stands for. -/
theorem append_cons_mem_filesBelowAll_iff {enters : Place → Bool} {place rest : Place}
    {name : String} {es : List (String × Entry)} (hnamed : wellNamedAll es = true)
    (hdistinct : distinctNamesAll es = true) :
    place ++ name :: rest ∈ filesBelowAll enters place es ↔
      ∃ e, es.lookup name = some e ∧
        (place ++ [name]) ++ rest ∈ e.filesAt enters (place ++ [name]) := by
  rw [mem_filesBelowAll, List.append_assoc, List.singleton_append]
  constructor
  · rintro ⟨n, e, hmem, hfound⟩
    have hlookup := (mem_iff_lookup hdistinct).mp hmem
    obtain ⟨below, hbelow, -⟩ :=
      Workspace.names_of_mem_filesAt (wellNamed_of_lookup hnamed hlookup).2 hfound
    rw [List.append_assoc, List.append_cancel_left_eq, List.singleton_append,
      List.cons.injEq] at hbelow
    obtain ⟨rfl, -⟩ := hbelow
    exact ⟨e, hlookup, hfound⟩
  · rintro ⟨e, hlookup, hfound⟩
    exact ⟨name, e, (mem_iff_lookup hdistinct).mpr hlookup, hfound⟩

/-- **What a walk finds.** Below an entry it finds what is no directory and is reached through
directories that are entered. -/
theorem mem_filesAt_iff {enters : Place → Bool} {place below : Place} {e : Entry}
    (hnamed : e.wellNamed = true) (hdistinct : e.distinctNames = true) :
    place ++ below ∈ e.filesAt enters place ↔ e.LeafAt below ∧ EntersAll enters place below := by
  induction below generalizing e place with
  | nil =>
    cases e with
    | file _ | link _ =>
      rw [filesAt, List.append_nil]
      exact iff_of_true (List.mem_singleton_self _) ⟨⟨_, rfl, rfl⟩, trivial⟩
    | directory es =>
      refine iff_of_false (fun h => ?_) (fun ⟨⟨leaf, hleaf, hdir⟩, _⟩ => ?_)
      · -- what is found below a directory has one more name
        rw [filesAt] at h
        split at h
        · obtain ⟨name, e', hmem, hfound⟩ := mem_filesBelowAll.mp h
          have hlookup := (mem_iff_lookup hdistinct).mp hmem
          obtain ⟨below, hbelow, -⟩ :=
            Workspace.names_of_mem_filesAt (wellNamed_of_lookup hnamed hlookup).2 hfound
          simp at hbelow
        · cases h
      · obtain rfl := Option.some.inj hleaf
        cases hdir
  | cons name rest ih =>
    cases e with
    | file _ | link _ =>
      rw [filesAt, List.mem_singleton]
      exact iff_of_false (by simp) fun ⟨⟨leaf, hleaf, _⟩, _⟩ => nomatch hleaf
    | directory es =>
      rw [filesAt, leafAt_cons, EntersAll]
      by_cases hplace : enters place = true
      · rw [if_pos hplace, append_cons_mem_filesBelowAll_iff hnamed hdistinct]
        constructor
        · rintro ⟨e, he, hfound⟩
          obtain ⟨hrest, hentered⟩ := (ih (wellNamed_of_lookup hnamed he).2
            (distinctNames_of_lookup hdistinct he)).mp hfound
          exact ⟨⟨e, he, hrest⟩, hplace, hentered⟩
        · rintro ⟨⟨e, he, hrest⟩, -, hentered⟩
          exact ⟨e, he, (ih (wellNamed_of_lookup hnamed he).2
            (distinctNames_of_lookup hdistinct he)).mpr ⟨hrest, hentered⟩⟩
      · rw [if_neg hplace]
        exact iff_of_false List.not_mem_nil fun h => hplace h.2.1

/-- What a walk finds below a directory is reached by one name at least; the directory it starts
from is entered in any case. -/
theorem mem_filesBelow_iff {enters : Place → Bool} {root place : Place} {e : Entry}
    (hnamed : e.wellNamed = true) (hdistinct : e.distinctNames = true) :
    place ∈ e.filesBelow enters root ↔
      ∃ name rest, place = root ++ name :: rest ∧ e.LeafAt (name :: rest) ∧
        EntersAll enters (root ++ [name]) rest := by
  have hall : wellNamedAll e.entries = true ∧ distinctNamesAll e.entries = true := by
    cases e with
    | file _ | link _ => exact ⟨rfl, rfl⟩
    | directory es => exact ⟨hnamed, hdistinct⟩
  rw [filesBelow]
  constructor
  · intro h
    obtain ⟨name, c, hmem, hfound⟩ := mem_filesBelowAll.mp h
    have hlookup := (mem_iff_lookup hall.2).mp hmem
    have hc := (wellNamed_of_lookup hall.1 hlookup).2
    obtain ⟨rest, rfl, -⟩ := Workspace.names_of_mem_filesAt hc hfound
    obtain ⟨hleaf, hentered⟩ :=
      (mem_filesAt_iff hc (distinctNames_of_lookup hall.2 hlookup)).mp hfound
    refine ⟨name, rest, ?_, leafAt_cons.mpr ⟨c, hlookup, hleaf⟩, hentered⟩
    rw [List.append_assoc, List.singleton_append]
  · rintro ⟨name, rest, rfl, hleaf, hentered⟩
    obtain ⟨c, hlookup, hrest⟩ := leafAt_cons.mp hleaf
    refine (append_cons_mem_filesBelowAll_iff hall.1 hall.2).mpr ⟨c, hlookup, ?_⟩
    exact (mem_filesAt_iff (wellNamed_of_lookup hall.1 hlookup).2
      (distinctNames_of_lookup hall.2 hlookup)).mpr ⟨hrest, hentered⟩

end Entry

/-! ### What is taken -/

theorem comesNoLater_iff {a b : Place} :
    comesNoLater a b = true ↔ ¬List.Lex (· < ·) b a := by
  rw [comesNoLater, Bool.not_eq_true', ← Bool.not_eq_true, List.lex_eq_true_iff_lex]
  simp only [decide_eq_true_eq]

theorem comesNoLater_trans {a b c : Place} (hab : comesNoLater a b = true)
    (hbc : comesNoLater b c = true) : comesNoLater a c = true := by
  rw [comesNoLater_iff] at hab hbc ⊢
  exact List.le_trans hab hbc

theorem comesNoLater_total (a b : Place) : (comesNoLater a b || comesNoLater b a) = true := by
  rw [Bool.or_eq_true, comesNoLater_iff, comesNoLater_iff]
  exact List.le_total a b

theorem comesNoLater_antisymm {a b : Place} (hab : comesNoLater a b = true)
    (hba : comesNoLater b a = true) : a = b := by
  rw [comesNoLater_iff] at hab hba
  exact List.le_antisymm hab hba

theorem pairwise_mergeSort_comesNoLater (places : List Place) :
    (places.mergeSort comesNoLater).Pairwise fun a b => comesNoLater a b = true := by
  revert places
  exact List.pairwise_mergeSort (fun _ _ _ => comesNoLater_trans) comesNoLater_total

/-- Lists without repetitions that have the same members are the same when sorted. -/
theorem mergeSort_distinct_eq {xs ys : List Place} (h : ∀ p, p ∈ xs ↔ p ∈ ys) :
    (distinct xs).mergeSort comesNoLater = (distinct ys).mergeSort comesNoLater := by
  have hperm : (distinct xs).Perm (distinct ys) := by
    rw [List.perm_ext_iff_of_nodup (nodup_distinct xs) (nodup_distinct ys)]
    intro p
    rw [mem_distinct, mem_distinct, h]
  exact List.Perm.eq_of_pairwise (fun a b _ _ => comesNoLater_antisymm)
    (pairwise_mergeSort_comesNoLater _) (pairwise_mergeSort_comesNoLater _)
    ((List.mergeSort_perm _ _).trans (hperm.trans (List.mergeSort_perm _ _).symm))

namespace Workspace

variable {w w' : Workspace}

theorem placeBelow_append (base below : Place) : placeBelow base (base ++ below) = below :=
  List.drop_left

/-- **What a walk takes**: the files below a directory, through directories that are entered,
that are looked for. -/
theorem mem_sourceFiles_iff (hw : w.WellNamed) (hdistinct : w.DistinctNames) {s : Selection}
    {base root place : Place} :
    place ∈ w.sourceFiles s base root ↔
      w.isFile (pathOf place) = true ∧ s.takes (placeBelow base place) = true ∧
        ∃ name rest, place = root ++ name :: rest ∧ w.top.LeafAt place ∧
          EntersAll (fun p => s.enters (placeBelow base p)) (root ++ [name]) rest := by
  rw [sourceFiles, List.mem_mergeSort, mem_distinct, sourceWalk, List.mem_filter,
    Bool.and_eq_true, and_comm, and_assoc, and_left_comm]
  refine and_congr_right fun _ => and_congr_right fun _ => ?_
  cases he : w.top.at? root with
  | none =>
    refine iff_of_false List.not_mem_nil ?_
    rintro ⟨name, rest, rfl, hleaf, -⟩
    obtain ⟨e, he', -⟩ := Entry.leafAt_append.mp hleaf
    rw [he] at he'
    cases he'
  | some e =>
    have hfound : place ∈ e.filesBelow (fun p => s.enters (placeBelow base p)) root ↔
        ∃ name rest, place = root ++ name :: rest ∧ e.LeafAt (name :: rest) ∧
          EntersAll (fun p => s.enters (placeBelow base p)) (root ++ [name]) rest :=
      Entry.mem_filesBelow_iff (Entry.wellNamed_of_at? hw he)
        (Entry.distinctNames_of_at? hdistinct he)
    dsimp only
    rw [hfound]
    refine exists_congr fun name => exists_congr fun rest => and_congr_right ?_
    rintro rfl
    rw [Entry.leafAt_append, he]
    simp

/-- Walks that take the same files take them in the same order. -/
theorem sourceFiles_ext {s s' : Selection} {base base' root root' : Place}
    (h : ∀ place, place ∈ w.sourceFiles s base root ↔ place ∈ w'.sourceFiles s' base' root') :
    w.sourceFiles s base root = w'.sourceFiles s' base' root' := by
  simp only [sourceFiles, List.mem_mergeSort, mem_distinct] at h ⊢
  exact mergeSort_distinct_eq h

end Workspace

end Preflight
