import Mathlib.Data.List.Basic
import Mathlib.Data.List.Chain
import Preflight.Proofs.Graph.FanIn
import Preflight.Proofs.Graph.Reachability

/-!
# Cycles are mutual reachability

A file is reported as part of a cycle where some import path leads from it back to it, and the
other files of its cycles are those it reaches and is reached from. The groups of the graph are
computed file by file from what each file leads to; every one of them is a class of mutual
reachability, however its loops overlap.

## Main definitions

* `OnlySelfImport`: a file gets back to itself by importing itself and in no other way.

## Main results

* `ImportGraph.reaches_imports_iff`: import paths and what the search of the graph finds.
* `ImportGraph.exists_cycle_iff`, `exists_common_cycle_iff`: the cycles of the graph.
* `cycles_exact`: the look-ups of cycles.
-/

namespace Preflight

open Relation

variable {sources : List (FileId × String)} {m n : FileId}

/-! ### Import paths -/

/-- A path of one step or more is a chain through the members it passes. -/
theorem transGen_iff_exists_chain {α : Type} {r : α → α → Prop} {a b : α} :
    TransGen r a b ↔ ∃ way, List.IsChain r (a :: (way ++ [b])) := by
  constructor
  · intro h
    induction h using TransGen.head_induction_on with
    | single h => exact ⟨[], by simpa using h⟩
    | @head a c hac _ ih =>
      obtain ⟨way, hway⟩ := ih
      exact ⟨c :: way, List.isChain_cons_cons.mpr ⟨hac, hway⟩⟩
  · rintro ⟨way, hway⟩
    induction way generalizing a with
    | nil => exact TransGen.single (by simpa using hway)
    | cons c way ih =>
      obtain ⟨hac, hrest⟩ := List.isChain_cons_cons.mp hway
      exact TransGen.head hac (ih hrest)

/-- A file gets back to itself by importing itself, and no other file is on any way back. -/
def OnlySelfImport (sources : List (FileId × String)) (n : FileId) : Prop :=
  Imports sources n n ∧
    ∀ way, List.IsChain (Imports sources) (n :: (way ++ [n])) → ∀ m ∈ way, m = n

/-- A file that gets back to itself does so only by its self-import exactly where no other file
is both reached from it and leads to it. -/
theorem onlySelfImport_iff (hn : TransGen (Imports sources) n n) :
    OnlySelfImport sources n ↔
      ∀ m, TransGen (Imports sources) n m → TransGen (Imports sources) m n → m = n := by
  constructor
  · rintro ⟨-, hways⟩ m hnm hmn
    obtain ⟨there, hthere⟩ := transGen_iff_exists_chain.mp hnm
    obtain ⟨back, hback⟩ := transGen_iff_exists_chain.mp hmn
    refine hways (there ++ m :: back) ?_ m (by simp)
    have : n :: ((there ++ m :: back) ++ [n]) = (n :: there) ++ m :: (back ++ [n]) := by simp
    rw [this, List.isChain_split]
    exact ⟨hthere, hback⟩
  · intro hall
    refine ⟨?_, ?_⟩
    · obtain ⟨c, hnc, hcn⟩ := TransGen.head'_iff.mp hn
      rcases reflTransGen_iff_eq_or_transGen.mp hcn with rfl | hcn
      · exact hnc
      · rw [hall c (TransGen.single hnc) hcn] at hnc
        exact hnc
    · intro way hway m hm
      obtain ⟨before, after, rfl⟩ := List.append_of_mem hm
      have : n :: ((before ++ m :: after) ++ [n]) = (n :: before) ++ m :: (after ++ [n]) := by
        simp
      rw [this, List.isChain_split] at hway
      exact hall m (transGen_iff_exists_chain.mpr ⟨before, hway.1⟩)
        (transGen_iff_exists_chain.mpr ⟨after, hway.2⟩)

namespace ImportGraph

/-! ### What a file leads to -/

theorem leads_imports : Leads (ofSources sources).imports = Imports sources := by
  funext m n
  rw [eq_iff_iff, Leads, mem_imports_iff, mem_edges_ofSources]

theorem reaches_imports_iff :
    Reaches (ofSources sources).imports m n ↔ TransGen (Imports sources) m n := by
  rw [reaches_iff_transGen, leads_imports]

/-- The search from the imports of a file finds what an import path leads to. -/
theorem mem_leadsTo_imports :
    n ∈ (ofSources sources).leadsTo ((ofSources sources).imports m) ↔
      TransGen (Imports sources) m n := by
  have hnext : ∀ x, ∀ y ∈ (ofSources sources).imports x, y ∈ (ofSources sources).nodes := by
    intro x y hy
    exact (edge_mem_nodes (mem_imports_iff.mp hy)).2
  rw [leadsTo, mem_reachable_next_iff hnext, reaches_imports_iff]

/-! ### Groups -/

theorem lookup_descendants {g : ImportGraph} (h : n ∈ g.nodes) :
    (g.descendants.lookup n).getD [] = g.leadsTo (g.imports n) := by
  rw [descendants, List.lookup_graph (fun id => g.leadsTo (g.imports id)) h, Option.getD_some]

/-- The group of a file holds the file and what lies with it on a common way back. -/
theorem mem_component_iff (h : n ∈ (ofSources sources).nodes) :
    m ∈ component (ofSources sources).descendants n ↔
      m ∈ (ofSources sources).nodes ∧
        (m = n ∨ (TransGen (Imports sources) n m ∧ TransGen (Imports sources) m n)) := by
  simp only [component, lookup_descendants h, List.mem_map, List.mem_filter, Bool.or_eq_true,
    beq_iff_eq, Bool.and_eq_true, List.contains_iff_mem, mem_leadsTo_imports]
  constructor
  · rintro ⟨⟨other, below⟩, ⟨hother, hcond⟩, rfl⟩
    obtain ⟨id, hid, heq⟩ := List.mem_map.mp hother
    obtain ⟨rfl, rfl⟩ := Prod.mk.inj heq
    rw [mem_leadsTo_imports] at hcond
    exact ⟨hid, hcond⟩
  · rintro ⟨hm, hcond⟩
    refine ⟨(m, _), ⟨List.mem_map.mpr ⟨m, hm, rfl⟩, ?_⟩, rfl⟩
    rw [mem_leadsTo_imports]
    exact hcond

theorem component_nodup (n : FileId) :
    (component (ofSources sources).descendants n).Nodup := by
  have hsub : (component (ofSources sources).descendants n).Sublist
      ((ofSources sources).descendants.map (·.1)) :=
    List.filter_sublist.map _
  have hfst : (ofSources sources).descendants.map (·.1) = (ofSources sources).nodes := by
    rw [descendants, List.map_map]
    exact List.map_id _
  rw [hfst] at hsub
  exact hsub.nodup (sortedSet_nodup _)

/-- A list without repetition has several members where it has one other than a given one. -/
theorem one_lt_length_iff {α : Type} {xs : List α} (hxs : xs.Nodup) {a : α} (ha : a ∈ xs) :
    1 < xs.length ↔ ∃ b ∈ xs, b ≠ a := by
  constructor
  · intro hlen
    match xs, hlen with
    | x :: y :: rest, _ =>
      have hxy : x ≠ y := fun h => (List.nodup_cons.mp hxs).1 (by simp [h])
      by_cases hx : x = a
      · exact ⟨y, by simp, fun hy => hxy (hx.trans hy.symm)⟩
      · exact ⟨x, by simp, hx⟩
  · rintro ⟨b, hb, hne⟩
    match xs, ha, hb with
    | [x], ha, hb =>
      rw [List.mem_singleton] at ha hb
      exact absurd (hb.trans ha.symm) hne
    | _ :: _ :: _, _, _ => simp

theorem mem_groups_iff {c : List FileId} :
    c ∈ (ofSources sources).groups ↔
      ∃ k ∈ (ofSources sources).nodes, component (ofSources sources).descendants k = c ∧
        1 < c.length := by
  simp only [groups, mem_distinct, List.mem_filter, List.mem_map, decide_eq_true_eq]
  constructor
  · rintro ⟨⟨k, hk, rfl⟩, hlen⟩
    exact ⟨k, hk, rfl, hlen⟩
  · rintro ⟨k, hk, rfl, hlen⟩
    exact ⟨⟨k, hk, rfl⟩, hlen⟩

/-- Two files of a group lie on a common way back. -/
theorem mutual_of_mem_group {c : List FileId} (hc : c ∈ (ofSources sources).groups)
    (hn : n ∈ c) (hm : m ∈ c) (hne : m ≠ n) :
    TransGen (Imports sources) n m ∧ TransGen (Imports sources) m n := by
  obtain ⟨k, hk, rfl, -⟩ := mem_groups_iff.mp hc
  obtain ⟨-, hn⟩ := (mem_component_iff hk).mp hn
  obtain ⟨-, hm⟩ := (mem_component_iff hk).mp hm
  rcases hn with rfl | ⟨hkn, hnk⟩
  · rcases hm with rfl | ⟨hkm, hmk⟩
    · exact absurd rfl hne
    · exact ⟨hkm, hmk⟩
  · rcases hm with rfl | ⟨hkm, hmk⟩
    · exact ⟨hnk, hkn⟩
    · exact ⟨hnk.trans hkm, hmk.trans hkn⟩

/-- Two files on a common way back are in a group. -/
theorem exists_group_of_mutual (hne : m ≠ n) (hnm : TransGen (Imports sources) n m)
    (hmn : TransGen (Imports sources) m n) :
    ∃ c ∈ (ofSources sources).groups, n ∈ c ∧ m ∈ c := by
  have hnodes : ∀ {a b : FileId}, TransGen (Imports sources) a b →
      a ∈ (ofSources sources).nodes := by
    intro a b hab
    obtain ⟨c, hac, -⟩ := TransGen.head'_iff.mp hab
    exact mem_nodes_ofSources.mpr hac.left_mem
  have hn : n ∈ component (ofSources sources).descendants n :=
    (mem_component_iff (hnodes hnm)).mpr ⟨hnodes hnm, Or.inl rfl⟩
  have hm : m ∈ component (ofSources sources).descendants n :=
    (mem_component_iff (hnodes hnm)).mpr ⟨hnodes hmn, Or.inr ⟨hnm, hmn⟩⟩
  refine ⟨_, mem_groups_iff.mpr ⟨n, hnodes hnm, rfl, ?_⟩, hn, hm⟩
  exact (one_lt_length_iff (component_nodup n) hn).mpr ⟨m, hm, hne⟩

/-! ### Cycles -/

theorem mem_selfImports_iff {c : List FileId} :
    c ∈ (ofSources sources).selfImports ↔ ∃ id, Imports sources id id ∧ c = [id] := by
  simp only [selfImports, List.mem_map, List.mem_filter, List.contains_iff_mem, mem_imports_iff,
    mem_edges_ofSources]
  constructor
  · rintro ⟨id, ⟨-, hself⟩, rfl⟩
    exact ⟨id, hself, rfl⟩
  · rintro ⟨id, hself, rfl⟩
    exact ⟨id, ⟨mem_nodes_ofSources.mpr hself.left_mem, hself⟩, rfl⟩

theorem mem_cycles_iff {c : List FileId} :
    c ∈ (ofSources sources).cycles ↔
      c ∈ (ofSources sources).groups ∨ ∃ id, Imports sources id id ∧ c = [id] := by
  rw [cycles, List.mem_mergeSort, List.mem_append, mem_selfImports_iff]

/-- A file is in a cycle where some import path leads back to it. -/
theorem exists_cycle_iff :
    (∃ c ∈ (ofSources sources).cycles, n ∈ c) ↔ TransGen (Imports sources) n n := by
  constructor
  · rintro ⟨c, hc, hn⟩
    rcases mem_cycles_iff.mp hc with hgroup | ⟨id, hself, rfl⟩
    · -- a group has a second member, and the way back to the file leads through it
      obtain ⟨k, -, rfl, hlen⟩ := mem_groups_iff.mp hgroup
      obtain ⟨m, hm, hne⟩ := (one_lt_length_iff (component_nodup k) hn).mp hlen
      obtain ⟨hnm, hmn⟩ := mutual_of_mem_group hgroup hn hm hne
      exact hnm.trans hmn
    · rw [List.mem_singleton.mp hn]
      exact TransGen.single hself
  · intro hback
    obtain ⟨c, hnc, hcn⟩ := TransGen.head'_iff.mp hback
    by_cases hne : c = n
    · subst hne
      exact ⟨[c], mem_cycles_iff.mpr (Or.inr ⟨c, hnc, rfl⟩), List.mem_singleton_self c⟩
    · rcases reflTransGen_iff_eq_or_transGen.mp hcn with rfl | hcn
      · exact absurd rfl hne
      · obtain ⟨group, hgroup, hn, -⟩ :=
          exists_group_of_mutual hne (TransGen.single hnc) hcn
        exact ⟨group, mem_cycles_iff.mpr (Or.inl hgroup), hn⟩

/-- Two files share a cycle where each of them leads to the other. -/
theorem exists_common_cycle_iff (hne : m ≠ n) :
    (∃ c ∈ (ofSources sources).cycles, n ∈ c ∧ m ∈ c) ↔
      TransGen (Imports sources) n m ∧ TransGen (Imports sources) m n := by
  constructor
  · rintro ⟨c, hc, hn, hm⟩
    rcases mem_cycles_iff.mp hc with hgroup | ⟨id, -, rfl⟩
    · exact mutual_of_mem_group hgroup hn hm hne
    · exact absurd ((List.mem_singleton.mp hm).trans (List.mem_singleton.mp hn).symm) hne
  · rintro ⟨hnm, hmn⟩
    obtain ⟨group, hgroup, hn, hm⟩ := exists_group_of_mutual hne hnm hmn
    exact ⟨group, mem_cycles_iff.mpr (Or.inl hgroup), hn, hm⟩

end ImportGraph

/-! ### Look-ups -/

theorem inCycle_dependencies (h : n ∈ sources.map (·.1)) :
    (ImportGraph.ofSources sources).dependencies.inCycle n = true ↔
      TransGen (Imports sources) n n := by
  have hn : n ∈ (ImportGraph.ofSources sources).nodes := ImportGraph.mem_nodes_ofSources.mpr h
  rw [ImportGraph.dependencies, Dependencies.inCycle_of_iff, ← ImportGraph.dependencies,
    ImportGraph.resolve_dependencies hn]
  simp only [List.mem_singleton, exists_eq_left]
  exact ImportGraph.exists_cycle_iff

theorem mem_cycleMembers_dependencies (h : n ∈ sources.map (·.1)) :
    m ∈ (ImportGraph.ofSources sources).dependencies.cycleMembers n ↔
      m ≠ n ∧ TransGen (Imports sources) n m ∧ TransGen (Imports sources) m n := by
  have hn : n ∈ (ImportGraph.ofSources sources).nodes := ImportGraph.mem_nodes_ofSources.mpr h
  rw [ImportGraph.dependencies, Dependencies.mem_cycleMembers_of_iff, ← ImportGraph.dependencies,
    ImportGraph.resolve_dependencies hn]
  simp only [List.mem_singleton, exists_eq_left]
  exact and_congr_right ImportGraph.exists_common_cycle_iff

/-- **Cycles are exactly mutual reachability.** A file of a project is reported in a cycle where
an import path leads from it back to it; the others reported with it are, in strict order, those
it leads to and that lead to it; and it is reported alone where its only way back is its
self-import. -/
theorem cycles_exact (h : n ∈ sources.map (·.1)) :
    ((ImportGraph.ofSources sources).dependencies.inCycle n = true ↔
      TransGen (Imports sources) n n) ∧
    ((ImportGraph.ofSources sources).dependencies.cycleMembers n).Pairwise (· < ·) ∧
    (∀ m, m ∈ (ImportGraph.ofSources sources).dependencies.cycleMembers n ↔
      m ≠ n ∧ TransGen (Imports sources) n m ∧ TransGen (Imports sources) m n) ∧
    ((ImportGraph.ofSources sources).dependencies.inCycle n = true →
      ((ImportGraph.ofSources sources).dependencies.cycleMembers n = [] ↔
        OnlySelfImport sources n)) := by
  refine ⟨inCycle_dependencies h, sortedSet_pairwise _,
    fun m => mem_cycleMembers_dependencies h, fun hin => ?_⟩
  rw [onlySelfImport_iff ((inCycle_dependencies h).mp hin), List.eq_nil_iff_forall_not_mem]
  refine forall_congr' fun m => ?_
  rw [mem_cycleMembers_dependencies h]
  constructor
  · intro hno hnm hmn
    exact Decidable.byContradiction fun hne => hno ⟨hne, hnm, hmn⟩
  · rintro hall ⟨hne, hnm, hmn⟩
    exact hne (hall hnm hmn)

/-- Two loops through a file that imports itself as well: their ends share a cycle. -/
theorem cycles_exact_overlapping :
    "c.ts" ∈ [("a.ts", "import './b'"), ("b.ts", "import './a'\nimport './b'\nimport './c'"),
        ("c.ts", "import './b'")].map (·.1) ∧
      "a.ts" ∈ (ImportGraph.ofSources [("a.ts", "import './b'"),
        ("b.ts", "import './a'\nimport './b'\nimport './c'"),
        ("c.ts", "import './b'")]).dependencies.cycleMembers "c.ts" := by
  have hmem : "c.ts" ∈ [("a.ts", "import './b'"),
      ("b.ts", "import './a'\nimport './b'\nimport './c'"), ("c.ts", "import './b'")].map (·.1) := by
    decide
  refine ⟨hmem, ((cycles_exact hmem).2.2.1 "a.ts").mpr ⟨by decide, ?_, ?_⟩⟩
  · exact TransGen.tail (b := "b.ts") (TransGen.single (by decide +kernel)) (by decide +kernel)
  · exact TransGen.tail (b := "b.ts") (TransGen.single (by decide +kernel)) (by decide +kernel)

end Preflight
