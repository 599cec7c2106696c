import Mathlib.Data.List.Nodup
import Preflight.Proofs.Graph.Lookup

/-!
# Look-ups are searches

The look-ups of a project go through two indexes. They find what a search through its cycles, its
importers and its files finds, for every id, known or not, and whatever the cycles are: they may
overlap, and an id may be known through nothing else.

## Main definitions

* `Search.known`: the ids that occur anywhere.
* `Search.targets`, `inCycle`, `cycleMembers`, `importers`: the searches.

## Main results

* `FileId.stem_append`: an id without its suffix.
* `Dependencies.lookups_eq_searches`: every look-up is the search.
* `Dependencies.resolve_twins`: twins stay apart, and what they have in common finds both.
-/

namespace Preflight

/-! ### Stems -/

/-- No suffix of a stem ends in another. -/
theorem eq_of_isSuffix_of_mem_stemSuffixes {s t : String} (hs : s ∈ stemSuffixes)
    (ht : t ∈ stemSuffixes) (h : s.toList <:+ t.toList) : s = t := by
  have hall : ∀ s ∈ stemSuffixes, ∀ t ∈ stemSuffixes, s.toList <:+ t.toList → s = t := by
    decide +kernel
  exact hall s hs t ht h

/-- **An id with a suffix loses it in its stem**, and nothing else. -/
theorem FileId.stem_append (base : String) {suffix : String} (h : suffix ∈ stemSuffixes) :
    FileId.stem (base ++ suffix) = base := by
  have hends : suffix.toList <:+ (base ++ suffix).toList := by
    rw [String.toList_append]
    exact List.suffix_append _ _
  have hfind : stemSuffixes.find? (fun s => s.toList.isSuffixOf (base ++ suffix).toList) =
      some suffix := by
    cases hfound : stemSuffixes.find? (fun s => s.toList.isSuffixOf (base ++ suffix).toList) with
    | none =>
      have hnot := List.find?_eq_none.mp hfound suffix h
      exact absurd (List.isSuffixOf_iff_suffix.mpr hends) hnot
    | some s =>
      have hs := List.find?_some hfound
      rw [List.isSuffixOf_iff_suffix] at hs
      have hmem := List.mem_of_find?_eq_some hfound
      rcases List.suffix_or_suffix_of_suffix hs hends with hshort | hlong
      · rw [eq_of_isSuffix_of_mem_stemSuffixes hmem h hshort]
      · rw [eq_of_isSuffix_of_mem_stemSuffixes h hmem hlong]
  rw [FileId.stem, hfind]
  dsimp only
  rw [dropEnd, String.toList_append, String.length_append, Nat.add_sub_cancel]
  rw [← String.length_toList, List.take_left, String.ofList_toList]

/-! ### Searches -/

namespace Search

variable (cycles : List (List FileId)) (incoming : List (FileId × List FileId))
  (nodes : List FileId)

/-- The ids that occur among the files, among those with importers, or in a cycle. -/
def known : List FileId := nodes ++ incoming.map (·.1) ++ cycles.flatten

/-- The ids that an id stands for: itself if it is known, and otherwise all known ids with the same
stem. -/
def targets (id : FileId) : List FileId :=
  if id ∈ known cycles incoming nodes then [id]
  else sortedSet ((known cycles incoming nodes).filter fun other =>
    FileId.stem other = FileId.stem id)

/-- Some cycle holds one of the ids that an id stands for. -/
def inCycle (id : FileId) : Bool :=
  cycles.any fun cycle => (targets cycles incoming nodes id).any cycle.contains

/-- The members of all such cycles, without the ids that the id stands for. -/
def cycleMembers (id : FileId) : List FileId :=
  let targets := targets cycles incoming nodes id
  let shared := cycles.filter fun cycle => targets.any cycle.contains
  sortedSet (shared.flatten.filter fun member => !targets.contains member)

/-- The importers of all the ids that an id stands for, without these ids. -/
def importers (id : FileId) : List FileId :=
  let targets := targets cycles incoming nodes id
  let entries := incoming.filter fun entry => targets.contains entry.1
  sortedSet ((entries.flatMap (·.2)).filter fun other => !targets.contains other)

end Search

namespace Dependencies

variable {cycles : List (List FileId)} {incoming : List (FileId × List FileId)}
  {nodes : List FileId}

theorem resolve_eq_targets (id : FileId) :
    (of cycles incoming nodes).resolve id = Search.targets cycles incoming nodes id := by
  have hknown : ∀ other, other ∈ knownIds cycles incoming nodes ↔
      other ∈ Search.known cycles incoming nodes := fun other => mem_sortedSet
  rw [resolve_of, Search.targets]
  simp only [hknown]
  split
  · rfl
  · refine eq_of_pairwise_lt ((sortedSet_pairwise _).filter _) (sortedSet_pairwise _) ?_
    intro other
    simp [hknown, eq_comm]

theorem inCycle_eq_search (id : FileId) :
    (of cycles incoming nodes).inCycle id = Search.inCycle cycles incoming nodes id := by
  rw [Bool.eq_iff_iff, inCycle_of_iff, resolve_eq_targets, Search.inCycle]
  simp only [List.any_eq_true, List.contains_iff_mem]
  constructor
  · rintro ⟨target, htarget, c, hc, hmem⟩
    exact ⟨c, hc, target, htarget, hmem⟩
  · rintro ⟨c, hc, target, htarget, hmem⟩
    exact ⟨target, htarget, c, hc, hmem⟩

theorem cycleMembers_eq_search (id : FileId) :
    (of cycles incoming nodes).cycleMembers id = Search.cycleMembers cycles incoming nodes id := by
  refine eq_of_pairwise_lt (sortedSet_pairwise _) (sortedSet_pairwise _) fun member => ?_
  rw [mem_cycleMembers_of_iff, resolve_eq_targets, Search.cycleMembers, mem_sortedSet]
  simp only [List.mem_filter, List.mem_flatten, List.any_eq_true, List.contains_iff_mem,
    Bool.not_eq_true', ← Bool.not_eq_true]
  constructor
  · rintro ⟨hnot, target, htarget, c, hc, hin, hmem⟩
    exact ⟨⟨c, ⟨hc, target, htarget, hin⟩, hmem⟩, hnot⟩
  · rintro ⟨⟨c, ⟨hc, target, htarget, hin⟩, hmem⟩, hnot⟩
    exact ⟨hnot, target, htarget, c, hc, hin, hmem⟩

/-- Where no id has two entries, what is found under an id is what its entry holds. -/
theorem mem_indexed_iff (hkeys : (incoming.map (·.1)).Nodup) (target other : FileId) :
    other ∈ indexed incoming target ↔ ∃ entry ∈ incoming, entry.1 = target ∧ other ∈ entry.2 := by
  induction incoming with
  | nil => simp [indexed]
  | cons entry rest ih =>
    obtain ⟨key, names⟩ := entry
    rw [List.map_cons, List.nodup_cons] at hkeys
    rw [List.exists_mem_cons_iff, ← ih hkeys.2]
    by_cases h : target = key
    · subst h
      have hnone : rest.lookup target = none := by
        rw [List.lookup_eq_none_iff]
        intro entry hentry
        refine bne_iff_ne.mpr ?_
        rintro rfl
        exact hkeys.1 (List.mem_map.mpr ⟨entry, hentry, rfl⟩)
      simp [indexed, hnone]
    · simp [indexed, List.lookup_cons, beq_eq_false_iff_ne.mpr h, Ne.symm h]

theorem importers_eq_search (hkeys : (incoming.map (·.1)).Nodup) (id : FileId) :
    (of cycles incoming nodes).importers id = Search.importers cycles incoming nodes id := by
  refine eq_of_pairwise_lt (sortedSet_pairwise _) (sortedSet_pairwise _) fun other => ?_
  rw [mem_importers_of_iff, resolve_eq_targets, Search.importers, mem_sortedSet]
  simp only [List.mem_filter, List.mem_flatMap, List.contains_iff_mem, Bool.not_eq_true',
    ← Bool.not_eq_true, mem_indexed_iff hkeys]
  constructor
  · rintro ⟨hnot, target, htarget, entry, hentry, rfl, hmem⟩
    exact ⟨⟨entry, ⟨hentry, htarget⟩, hmem⟩, hnot⟩
  · rintro ⟨⟨entry, ⟨hentry, htarget⟩, hmem⟩, hnot⟩
    exact ⟨hnot, entry.1, htarget, entry, hentry, rfl, hmem⟩

/-- **Twins stay apart.** Files that differ in the suffix alone stand each for itself, and what they
have in common, if it is no known id and has no suffix itself, stands for all of them. -/
theorem resolve_twins {base : FileId} (hstem : FileId.stem base = base)
    (hbase : base ∉ Search.known cycles incoming nodes) {suffix : String}
    (hsuffix : suffix ∈ stemSuffixes)
    (hknown : base ++ suffix ∈ Search.known cycles incoming nodes) :
    (of cycles incoming nodes).resolve (base ++ suffix) = [base ++ suffix] ∧
      base ++ suffix ∈ (of cycles incoming nodes).resolve base := by
  rw [resolve_eq_targets, resolve_eq_targets, Search.targets, Search.targets, if_pos hknown,
    if_neg hbase]
  refine ⟨rfl, ?_⟩
  rw [mem_sortedSet, List.mem_filter, FileId.stem_append base hsuffix, hstem]
  exact ⟨hknown, decide_eq_true rfl⟩

/-- **Look-ups are searches.** For all cycles, importers and files, where no id has two lists of
importers, and for every id, known or not: the id stands for itself if it is known, and otherwise
for all known ids with its stem, in order; it is in a cycle if some cycle holds an id that it stands
for; its cycle members are the members of all these cycles, and its importers the importers of all
the ids it stands for, each time in order, without repetitions and without the ids that it stands
for. -/
theorem lookups_eq_searches (hkeys : (incoming.map (·.1)).Nodup) (id : FileId) :
    (of cycles incoming nodes).resolve id = Search.targets cycles incoming nodes id ∧
      (of cycles incoming nodes).inCycle id = Search.inCycle cycles incoming nodes id ∧
      (of cycles incoming nodes).cycleMembers id =
        Search.cycleMembers cycles incoming nodes id ∧
      (of cycles incoming nodes).importers id = Search.importers cycles incoming nodes id :=
  ⟨resolve_eq_targets id, inCycle_eq_search id, cycleMembers_eq_search id,
    importers_eq_search hkeys id⟩

/-! ### Twins in overlapping cycles -/

/-- Two cycles that share a file. -/
def overlappingCycles : List (List FileId) := [["a.ts", "b.ts"], ["b.ts", "c.ts"]]

/-- The importers of two twins, one of which imports the other. -/
def twinImporters : List (FileId × List FileId) := [("a.js", ["b.ts"]), ("a.ts", ["a.js", "c.ts"])]

/-- The twins are the only files: what else is known is known from the cycles. -/
def twinDependencies : Dependencies := of overlappingCycles twinImporters ["a.js", "a.ts"]

/-- What the twins have in common is looked up with the cycles and the importers of both, an id that
is known from the cycles alone with both of its cycles. -/
theorem lookups_eq_searches_twins :
    (twinImporters.map (·.1)).Nodup ∧ twinDependencies.resolve "a" = ["a.js", "a.ts"] ∧
      twinDependencies.inCycle "a" = true ∧ twinDependencies.cycleMembers "a" = ["b.ts"] ∧
      twinDependencies.importers "a" = ["b.ts", "c.ts"] ∧
      twinDependencies.cycleMembers "b.ts" = ["a.ts", "c.ts"] := by
  have hkeys : (twinImporters.map (·.1)).Nodup := by decide
  have hsorted : ∀ {xs ys : List String}, distinct xs = ys → ys.Pairwise (· ≤ ·) →
      sortedSet xs = ys := by
    rintro xs ys rfl hys
    exact List.mergeSort_of_pairwise (hys.imp decide_eq_true)
  obtain ⟨hresolve, hcycle, hmembers, himporters⟩ :=
    @lookups_eq_searches overlappingCycles twinImporters ["a.js", "a.ts"] hkeys "a"
  have htargets : Search.targets overlappingCycles twinImporters ["a.js", "a.ts"] "a" =
      ["a.js", "a.ts"] := by
    rw [Search.targets, if_neg (by decide)]
    exact hsorted (by decide +kernel) (by decide)
  rw [htargets] at hresolve
  rw [Search.inCycle, htargets] at hcycle
  rw [Search.cycleMembers, htargets] at hmembers
  rw [Search.importers, htargets] at himporters
  obtain ⟨-, -, hshared, -⟩ :=
    @lookups_eq_searches overlappingCycles twinImporters ["a.js", "a.ts"] hkeys "b.ts"
  rw [Search.cycleMembers, Search.targets, if_pos (by decide)] at hshared
  exact ⟨hkeys, hresolve, hcycle, hmembers.trans (hsorted (by decide) (by decide)),
    himporters.trans (hsorted (by decide) (by decide)),
    hshared.trans (hsorted (by decide) (by decide))⟩

end Dependencies

end Preflight
