import Preflight.Proofs.FileTree.Walk

/-!
# A tree with a new file

A new file is put where nothing was. The tree keeps every entry it had: files with their content,
links with where they point, directories as directories. What is new are the file and the
directories that were missing on the way to it; there are no new links. Where a file or a link is
on the way, the tree stays as it is.

## Main definitions

* `Entry.SameKind`: two entries are the same but for what a directory holds.
* `Entry.GrewBy`: a tree that grew by a file.

## Main results

* `Entry.put_grewBy`: a tree with a file put where nothing was grew by that file.
* `Entry.linkCount_put`, `Entry.wellNamed_put`, `Entry.distinctNames_put`: what else is kept.
-/

namespace Preflight

namespace Entry

/-- Two entries are files with the same content, links to the same path, or directories. -/
def SameKind : Entry → Entry → Prop
  | file content, file content' => content = content'
  | link target, link target' => target = target'
  | directory _, directory _ => True
  | _, _ => False

/-- A tree that grew by a file at a place, and by the directories that were missing on the way. -/
structure GrewBy (top top' : Entry) (place : Place) : Prop where
  kept : ∀ {p e}, top.at? p = some e → ∃ e', top'.at? p = some e' ∧ e.SameKind e'
  fresh : ∀ {p e'}, top.at? p = none → top'.at? p = some e' →
    p <+: place ∧ (e'.isDirectory = true ∨ p = place ∧ e'.isFile = true)

theorem SameKind.refl (e : Entry) : e.SameKind e := by
  cases e with
  | file _ | link _ => rfl
  | directory _ => trivial

theorem GrewBy.refl (top : Entry) (place : Place) : top.GrewBy top place where
  kept := fun h => ⟨_, h, .refl _⟩
  fresh := fun h h' => by
    rw [h] at h'
    cases h'

variable {name : String} {e new : Entry} {es : List (String × Entry)} {place : Place}
  {content : List UInt8}

/-! ### Entries of a directory -/

theorem lookup_setEntry (n : String) :
    (setEntry name e es).lookup n = if n = name then some e else es.lookup n := by
  induction es with
  | nil =>
    by_cases hn : n = name
    · simp [setEntry, hn]
    · simp [setEntry, List.lookup_cons, hn, beq_eq_false_iff_ne.mpr hn]
  | cons entry rest ih =>
    obtain ⟨m, old⟩ := entry
    rw [setEntry]
    by_cases hm : m = name
    · subst hm
      rw [if_pos rfl, List.lookup_cons, List.lookup_cons]
      by_cases hn : n = m
      · simp [hn]
      · simp [hn, beq_eq_false_iff_ne.mpr hn]
    · rw [if_neg hm, List.lookup_cons, List.lookup_cons, ih]
      by_cases hn : n = m
      · subst hn
        simp [hm]
      · simp [beq_eq_false_iff_ne.mpr hn]

theorem at?_directory_cons (n : String) (q : Place) :
    (directory es).at? (n :: q) = (es.lookup n).bind fun c => c.at? q := rfl

theorem at?_setEntry_cons (n : String) (q : Place) :
    (directory (setEntry name e es)).at? (n :: q) =
      if n = name then e.at? q else (directory es).at? (n :: q) := by
  rw [at?_directory_cons, lookup_setEntry]
  split
  · rfl
  · rfl

/-! ### What is kept and what is new -/

/-- Below a directory without entries, only the new file and the way to it are there. -/
theorem at?_put_emptyDirectory {p : Place} {e' : Entry}
    (h : (put (file content) place emptyDirectory).at? p = some e') :
    p <+: place ∧ (e'.isDirectory = true ∨ p = place ∧ e'.isFile = true) := by
  induction place generalizing p with
  | nil =>
    cases p with
    | nil =>
      obtain rfl := Option.some.inj h
      exact ⟨List.prefix_rfl, Or.inr ⟨rfl, rfl⟩⟩
    | cons n q => cases h
  | cons name rest ih =>
    cases p with
    | nil =>
      obtain rfl := Option.some.inj h
      exact ⟨List.nil_prefix, Or.inl rfl⟩
    | cons n q =>
      rw [emptyDirectory, put, at?_setEntry_cons] at h
      split at h
      · next hn =>
        subst hn
        obtain ⟨hq, hkind⟩ := ih h
        refine ⟨(List.prefix_cons_inj n).mpr hq, hkind.imp_right fun hfile => ?_⟩
        exact ⟨congrArg (n :: ·) hfile.1, hfile.2⟩
      · cases h

/-- A directory grew by a file below one of its names, if what the name stands for did. -/
theorem GrewBy.setEntry {rest : Place}
    (hkept : ∀ {q c}, (directory es).at? (name :: q) = some c →
      ∃ c', e.at? q = some c' ∧ c.SameKind c')
    (hfresh : ∀ {q c'}, (directory es).at? (name :: q) = none → e.at? q = some c' →
      q <+: rest ∧ (c'.isDirectory = true ∨ q = rest ∧ c'.isFile = true)) :
    (directory es).GrewBy (directory (setEntry name e es)) (name :: rest) where
  kept := by
    intro p c h
    cases p with
    | nil =>
      obtain rfl := Option.some.inj h
      exact ⟨_, rfl, trivial⟩
    | cons n q =>
      rw [at?_setEntry_cons]
      split
      · next hn =>
        subst hn
        exact hkept h
      · exact ⟨c, h, .refl c⟩
  fresh := by
    intro p c' h h'
    cases p with
    | nil => cases h
    | cons n q =>
      rw [at?_setEntry_cons] at h'
      split at h'
      · next hn =>
        subst hn
        obtain ⟨hq, hkind⟩ := hfresh h h'
        refine ⟨(List.prefix_cons_inj n).mpr hq, hkind.imp_right fun hfile => ?_⟩
        exact ⟨congrArg (n :: ·) hfile.1, hfile.2⟩
      · rw [h] at h'
        cases h'

/-- **A tree with a new file** grew by that file. -/
theorem put_grewBy (h : e.at? place = none) : e.GrewBy (put (file content) place e) place := by
  induction place generalizing e with
  | nil => cases h
  | cons name rest ih =>
    cases e with
    | file _ | link _ => exact .refl _ _
    | directory es =>
      rw [at?_directory_cons] at h
      rw [put]
      cases hlookup : es.lookup name with
      | none =>
        refine .setEntry (fun hat => ?_) fun _ hat => at?_put_emptyDirectory hat
        rw [at?_directory_cons, hlookup] at hat
        cases hat
      | some c =>
        rw [hlookup] at h
        have hgrew := ih h
        refine .setEntry (fun hat => ?_) fun hat hat' => ?_
        · rw [at?_directory_cons, hlookup] at hat
          exact hgrew.kept hat
        · rw [at?_directory_cons, hlookup] at hat
          exact hgrew.fresh hat hat'

/-! ### Links and names -/

theorem linkCountAll_setEntry_none (h : es.lookup name = none) :
    linkCountAll (setEntry name e es) = linkCountAll es + e.linkCount := by
  induction es with
  | nil => simp [setEntry, linkCountAll]
  | cons entry rest ih =>
    obtain ⟨n, old⟩ := entry
    rw [List.lookup_cons] at h
    split at h
    · cases h
    · next hn =>
      rw [setEntry, if_neg (fun heq => by simp [heq] at hn), linkCountAll, linkCountAll, ih h,
        Nat.add_assoc]

theorem linkCountAll_setEntry_some {c : Entry} (h : es.lookup name = some c)
    (he : e.linkCount = c.linkCount) : linkCountAll (setEntry name e es) = linkCountAll es := by
  induction es with
  | nil => cases h
  | cons entry rest ih =>
    obtain ⟨n, old⟩ := entry
    rw [List.lookup_cons] at h
    split at h
    · next hn =>
      obtain rfl := Option.some.inj h
      rw [setEntry, if_pos (beq_iff_eq.mp hn).symm, linkCountAll, linkCountAll, he]
    · next hn =>
      rw [setEntry, if_neg (fun heq => by simp [heq] at hn), linkCountAll, linkCountAll, ih h]

theorem linkCount_put_emptyDirectory (place : Place) :
    (put (file content) place emptyDirectory).linkCount = 0 := by
  induction place with
  | nil => rfl
  | cons name rest ih =>
    rw [emptyDirectory, put, linkCount, linkCountAll_setEntry_none rfl, linkCountAll, Nat.zero_add]
    exact ih

/-- A new file adds no links. -/
theorem linkCount_put (h : e.at? place = none) :
    (put (file content) place e).linkCount = e.linkCount := by
  induction place generalizing e with
  | nil => cases h
  | cons name rest ih =>
    cases e with
    | file _ | link _ => rfl
    | directory es =>
      rw [at?_directory_cons] at h
      rw [put, linkCount, linkCount]
      cases hlookup : es.lookup name with
      | none =>
        rw [linkCountAll_setEntry_none hlookup, Option.getD_none, linkCount_put_emptyDirectory,
          Nat.add_zero]
      | some c =>
        rw [hlookup] at h
        exact linkCountAll_setEntry_some hlookup (ih h)

theorem wellNamedAll_setEntry (hname : isFileName name = true) (he : e.wellNamed = true)
    (hes : wellNamedAll es = true) : wellNamedAll (setEntry name e es) = true := by
  induction es with
  | nil => exact wellNamedAll_cons.mpr ⟨hname, he, rfl⟩
  | cons entry rest ih =>
    obtain ⟨n, old⟩ := entry
    obtain ⟨hn, hold, hrest⟩ := wellNamedAll_cons.mp hes
    rw [setEntry]
    split
    · exact wellNamedAll_cons.mpr ⟨hname, he, hrest⟩
    · exact wellNamedAll_cons.mpr ⟨hn, hold, ih hrest⟩

/-- Names stay names of files, if those on the way to the new file are. -/
theorem wellNamed_put (hplace : ∀ s ∈ place, isFileName s = true) (he : e.wellNamed = true) :
    (put (file content) place e).wellNamed = true := by
  induction place generalizing e with
  | nil => rfl
  | cons name rest ih =>
    obtain ⟨hname, hrest⟩ := List.forall_mem_cons.mp hplace
    cases e with
    | file _ | link _ => rfl
    | directory es =>
      refine wellNamedAll_setEntry hname (ih hrest ?_) he
      cases hlookup : es.lookup name with
      | none => rfl
      | some c => exact (wellNamed_of_lookup he hlookup).2

theorem map_fst_setEntry_subset {n : String} (h : n ∈ (setEntry name e es).map (·.1)) :
    n = name ∨ n ∈ es.map (·.1) := by
  induction es with
  | nil => exact Or.inl (List.mem_singleton.mp h)
  | cons entry rest ih =>
    obtain ⟨m, old⟩ := entry
    rw [setEntry] at h
    split at h
    · next hm =>
      subst hm
      exact Or.inr h
    · rcases List.mem_cons.mp h with rfl | h
      · exact Or.inr (List.mem_cons_self ..)
      · exact (ih h).imp_right (List.mem_cons_of_mem _)

theorem distinctNamesAll_setEntry (he : e.distinctNames = true)
    (hes : distinctNamesAll es = true) : distinctNamesAll (setEntry name e es) = true := by
  induction es with
  | nil => exact distinctNamesAll_cons.mpr ⟨List.not_mem_nil, he, rfl⟩
  | cons entry rest ih =>
    obtain ⟨n, old⟩ := entry
    obtain ⟨hnew, hold, hrest⟩ := distinctNamesAll_cons.mp hes
    rw [setEntry]
    split
    · next hn =>
      subst hn
      exact distinctNamesAll_cons.mpr ⟨hnew, he, hrest⟩
    · next hn =>
      refine distinctNamesAll_cons.mpr ⟨fun hmem => ?_, hold, ih hrest⟩
      exact (map_fst_setEntry_subset hmem).elim hn hnew

/-- Distinct names stay distinct. -/
theorem distinctNames_put (he : e.distinctNames = true) :
    (put (file content) place e).distinctNames = true := by
  induction place generalizing e with
  | nil => rfl
  | cons name rest ih =>
    cases e with
    | file _ | link _ => rfl
    | directory es =>
      refine distinctNamesAll_setEntry (ih ?_) he
      cases hlookup : es.lookup name with
      | none => rfl
      | some c => exact distinctNames_of_lookup he hlookup

end Entry

end Preflight
