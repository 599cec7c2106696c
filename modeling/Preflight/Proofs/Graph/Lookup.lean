import Preflight.Graph.Dependencies

/-!
# Look-ups through the indexes

The two indexes of a project answer what a search through its cycles and its known ids would
answer. Each index is read back as a filter of the list it was made from; the look-ups by id
follow, for every id, known or not.

## Main results

* `indexed_stemIndex`: the ids of a stem are the known ids with that stem.
* `mem_indexed_cycleIndex`, `isSome_lookup_cycleIndex`: the cycles of an id are those it is in.
* `Dependencies.resolve_of`: a known id stands for itself, any other for the ids of its stem.
* `Dependencies.inCycle_of_iff`, `mem_cycleMembers_of_iff`, `mem_importers_of_iff`: the look-ups
  as searches.
-/

namespace Preflight

/-! ### Indexes -/

section index

variable {β : Type}

theorem lookup_addToIndex (key k : String) (value : β) (index : List (String × List β)) :
    (addToIndex key value index).lookup k =
      if k = key then some (indexed index key ++ [value]) else index.lookup k := by
  induction index with
  | nil =>
    by_cases h : k = key
    · simp [addToIndex, indexed, h]
    · simp [addToIndex, List.lookup_cons, h, beq_eq_false_iff_ne.2 h]
  | cons entry rest ih =>
    obtain ⟨q, values⟩ := entry
    by_cases hq : q = key
    · subst hq
      by_cases h : k = q
      · simp [addToIndex, indexed, h]
      · simp [addToIndex, List.lookup_cons, h, beq_eq_false_iff_ne.2 h]
    · by_cases h : k = q
      · subst h
        simp [addToIndex, hq]
      · simp only [addToIndex, if_neg hq, List.lookup_cons, beq_eq_false_iff_ne.2 h, ih, indexed,
          beq_eq_false_iff_ne.2 (Ne.symm hq)]

theorem indexed_addToIndex (key k : String) (value : β) (index : List (String × List β)) :
    indexed (addToIndex key value index) k =
      indexed index k ++ if k = key then [value] else [] := by
  rw [indexed, lookup_addToIndex]
  by_cases h : k = key
  · simp [h]
  · simp [h, indexed]

/-- An index built value by value holds, under every key, the values with that key in the order
in which they were added. -/
theorem indexed_foldl_addToIndex {α : Type} (key : α → String) (value : α → β) (k : String)
    (xs : List α) (index : List (String × List β)) :
    indexed (xs.foldl (fun index x => addToIndex (key x) (value x) index) index) k =
      indexed index k ++ (xs.filter fun x => k = key x).map value := by
  induction xs generalizing index with
  | nil => simp
  | cons x xs ih =>
    rw [List.foldl_cons, ih, indexed_addToIndex, List.append_assoc]
    by_cases h : k = key x
    · simp [h]
    · simp [h]

/-- A key is in an index built value by value as soon as one value was added under it. -/
theorem isSome_lookup_foldl_addToIndex {α : Type} (key : α → String) (value : α → β) (k : String)
    (xs : List α) (index : List (String × List β)) :
    ((xs.foldl (fun index x => addToIndex (key x) (value x) index) index).lookup k).isSome =
      ((index.lookup k).isSome || xs.any fun x => k = key x) := by
  induction xs generalizing index with
  | nil => simp
  | cons x xs ih =>
    rw [List.foldl_cons, ih, lookup_addToIndex]
    by_cases h : k = key x
    · simp [h]
    · simp [h]

end index

/-! ### The ids of a stem -/

theorem indexed_stemIndex (known : List FileId) (stem : String) :
    indexed (Dependencies.stemIndex known) stem =
      known.filter fun id => stem = FileId.stem id := by
  rw [Dependencies.stemIndex, indexed_foldl_addToIndex FileId.stem (fun id => id)]
  simp [indexed]

/-! ### The cycles of an id -/

/-- Adding a cycle under each of its members. -/
def addCycle (index : List (FileId × List (List FileId))) (cycle : List FileId) :
    List (FileId × List (List FileId)) :=
  cycle.foldl (fun index id => addToIndex id cycle index) index

theorem cycleIndex_eq (cycles : List (List FileId)) :
    Dependencies.cycleIndex cycles = cycles.foldl addCycle [] := rfl

theorem mem_indexed_addCycle (index : List (FileId × List (List FileId))) (cycle c : List FileId)
    (id : FileId) :
    c ∈ indexed (addCycle index cycle) id ↔ c ∈ indexed index id ∨ (c = cycle ∧ id ∈ cycle) := by
  rw [addCycle, indexed_foldl_addToIndex (fun id => id) (fun _ => cycle), List.mem_append]
  refine or_congr_right ?_
  simp only [List.mem_map, List.mem_filter, decide_eq_true_eq]
  constructor
  · rintro ⟨m, ⟨hm, rfl⟩, rfl⟩
    exact ⟨rfl, hm⟩
  · rintro ⟨rfl, hid⟩
    exact ⟨id, ⟨hid, rfl⟩, rfl⟩

theorem mem_indexed_foldl_addCycle (cycles : List (List FileId)) (c : List FileId) (id : FileId)
    (index : List (FileId × List (List FileId))) :
    c ∈ indexed (cycles.foldl addCycle index) id ↔
      c ∈ indexed index id ∨ (c ∈ cycles ∧ id ∈ c) := by
  induction cycles generalizing index with
  | nil => simp
  | cons cycle cycles ih =>
    rw [List.foldl_cons, ih, mem_indexed_addCycle, or_assoc]
    refine or_congr_right ?_
    rw [List.mem_cons, or_and_right]
    refine or_congr_left (and_congr_right ?_)
    rintro rfl
    rfl

/-- The cycles of an id are those it is in. -/
theorem mem_indexed_cycleIndex (cycles : List (List FileId)) (c : List FileId) (id : FileId) :
    c ∈ indexed (Dependencies.cycleIndex cycles) id ↔ c ∈ cycles ∧ id ∈ c := by
  rw [cycleIndex_eq, mem_indexed_foldl_addCycle]
  simp [indexed]

theorem isSome_lookup_foldl_addCycle (cycles : List (List FileId)) (id : FileId)
    (index : List (FileId × List (List FileId))) :
    ((cycles.foldl addCycle index).lookup id).isSome = true ↔
      (index.lookup id).isSome = true ∨ ∃ c ∈ cycles, id ∈ c := by
  induction cycles generalizing index with
  | nil => simp
  | cons cycle cycles ih =>
    rw [List.foldl_cons, ih, addCycle,
      isSome_lookup_foldl_addToIndex (fun id => id) (fun _ => cycle)]
    simp [or_assoc]

/-- An id has cycles where it is in one. -/
theorem isSome_lookup_cycleIndex (cycles : List (List FileId)) (id : FileId) :
    ((Dependencies.cycleIndex cycles).lookup id).isSome = true ↔ ∃ c ∈ cycles, id ∈ c := by
  rw [cycleIndex_eq, isSome_lookup_foldl_addCycle]
  simp

/-! ### Look-ups by id -/

namespace Dependencies

variable (cycles : List (List FileId)) (incoming : List (FileId × List FileId))
  (nodes : List FileId)

/-- A known id stands for itself alone, any other for the known ids with its stem. -/
theorem resolve_of (id : FileId) :
    (of cycles incoming nodes).resolve id =
      if id ∈ knownIds cycles incoming nodes then [id]
      else (knownIds cycles incoming nodes).filter fun other =>
        FileId.stem id = FileId.stem other := by
  have hmem : ((knownIds cycles incoming nodes).filter fun other =>
      FileId.stem id = FileId.stem other).contains id = decide (id ∈ knownIds cycles incoming nodes)
      := by
    rw [Bool.eq_iff_iff]
    simp
  rw [resolve, show (of cycles incoming nodes).byStem =
      stemIndex (knownIds cycles incoming nodes) from rfl, indexed_stemIndex]
  simp only [hmem, decide_eq_true_eq]

theorem resolve_of_known {id : FileId} (h : id ∈ knownIds cycles incoming nodes) :
    (of cycles incoming nodes).resolve id = [id] := by
  rw [resolve_of, if_pos h]

theorem inCycle_of_iff (id : FileId) :
    (of cycles incoming nodes).inCycle id = true ↔
      ∃ target ∈ (of cycles incoming nodes).resolve id, ∃ c ∈ cycles, target ∈ c := by
  rw [inCycle, List.any_eq_true]
  refine exists_congr fun target => and_congr_right fun _ => ?_
  exact isSome_lookup_cycleIndex cycles target

theorem mem_cycleMembers_of_iff (id member : FileId) :
    member ∈ (of cycles incoming nodes).cycleMembers id ↔
      member ∉ (of cycles incoming nodes).resolve id ∧
        ∃ target ∈ (of cycles incoming nodes).resolve id, ∃ c ∈ cycles, target ∈ c ∧ member ∈ c
    := by
  have hcycles : ∀ target, member ∈ (indexed (of cycles incoming nodes).cyclesById target).flatten
      ↔ ∃ c ∈ cycles, target ∈ c ∧ member ∈ c := by
    intro target
    rw [List.mem_flatten]
    constructor
    · rintro ⟨c, hc, hm⟩
      obtain ⟨hc, ht⟩ := (mem_indexed_cycleIndex cycles c target).mp hc
      exact ⟨c, hc, ht, hm⟩
    · rintro ⟨c, hc, ht, hm⟩
      exact ⟨c, (mem_indexed_cycleIndex cycles c target).mpr ⟨hc, ht⟩, hm⟩
  simp only [cycleMembers, mem_sortedSet, List.mem_filter, List.mem_flatMap, hcycles,
    Bool.not_eq_eq_eq_not, Bool.not_true, List.contains_eq_mem, decide_eq_false_iff_not]
  exact and_comm

theorem mem_importers_of_iff (id other : FileId) :
    other ∈ (of cycles incoming nodes).importers id ↔
      other ∉ (of cycles incoming nodes).resolve id ∧
        ∃ target ∈ (of cycles incoming nodes).resolve id, other ∈ indexed incoming target := by
  simp only [importers, mem_sortedSet, List.mem_filter, List.mem_flatMap,
    Bool.not_eq_eq_eq_not, Bool.not_true, List.contains_eq_mem, decide_eq_false_iff_not]
  exact and_comm

end Dependencies

end Preflight
