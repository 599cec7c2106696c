import Preflight.Proofs.FileTree.Project
import Preflight.Proofs.FileTree.RealPath

/-!
# The nearest manifest

The search for a project starts in a directory, which for a file is the one it is in, and goes up
from there. The project is the first directory on the way with a manifest; without any it is where
the search starts.

## Main definitions

* `Workspace.ProjectTop`: the project of what is in a directory.

## Main results

* `Workspace.exists_projectTop`, `ProjectTop.unique`: a search that ends has found the project, and
  there is one only.
* `Workspace.ProjectTop.directoryAt`: the project of what is there is a directory.
-/

namespace Preflight

/-! ### Places above a place -/

theorem mem_placesAbove_iff {p q : Place} : q ∈ placesAbove p ↔ q <+: p := by
  refine ⟨isPrefix_of_mem_placesAbove, fun h => ?_⟩
  induction p generalizing q with
  | nil =>
    rw [List.prefix_nil.mp h, placesAbove]
    exact List.mem_singleton_self _
  | cons s rest ih =>
    rw [placesAbove, List.mem_append, List.mem_map]
    rcases List.prefix_cons_iff.mp h with rfl | ⟨above, rfl, habove⟩
    · exact Or.inr (List.mem_singleton_self _)
    · exact Or.inl ⟨above, ih habove, rfl⟩

/-- The nearest of the places above a place come first. -/
theorem pairwise_placesAbove (p : Place) :
    (placesAbove p).Pairwise fun near far => far.length < near.length := by
  induction p with
  | nil => exact List.pairwise_singleton _ _
  | cons s rest ih =>
    rw [placesAbove, List.pairwise_append]
    refine ⟨?_, List.pairwise_singleton _ _, ?_⟩
    · rw [List.pairwise_map]
      exact ih.imp fun h => Nat.succ_lt_succ h
    · rintro near hnear far hfar
      obtain ⟨above, -, rfl⟩ := List.mem_map.mp hnear
      rw [List.mem_singleton.mp hfar]
      exact Nat.zero_lt_succ _

/-- Before a place in the list of those above another, all nearer ones have been looked at. -/
theorem mem_of_placesAbove_split {p q r : Place} {before after : List Place}
    (hsplit : placesAbove p = before ++ q :: after) (hr : r <+: p) (hlength : q.length < r.length) :
    r ∈ before := by
  have hfar : ∀ far ∈ after, far.length < q.length := by
    have hpairwise := pairwise_placesAbove p
    rw [hsplit] at hpairwise
    exact (List.pairwise_cons.mp (List.pairwise_append.mp hpairwise).2.1).1
  have hmem := mem_placesAbove_iff.mpr hr
  rw [hsplit, List.mem_append, List.mem_cons] at hmem
  rcases hmem with hr | rfl | hr
  · exact hr
  · exact absurd hlength (Nat.lt_irrefl _)
  · exact absurd hlength (Nat.lt_asymm (hfar r hr))

namespace Workspace

variable {w : Workspace} {manifests : List String} {place : Place} {e : Entry}

/-! ### The search -/

/-- The project of what is in a directory: the nearest directory, there or above, that holds a
manifest, or the directory itself where there is none. -/
structure ProjectTop (w : Workspace) (manifests : List String) (start root : Place) : Prop where
  above : root <+: start
  nearest : ∀ q, q <+: start → root.length < q.length →
    w.hasManifest manifests (pathOf q) = .ok false
  manifest : w.hasManifest manifests (pathOf root) = .ok true ∨
    root = start ∧ ∀ q, q <+: start → w.hasManifest manifests (pathOf q) = .ok false

namespace ProjectTop

variable {start root root' : Place}

theorem length_le (h : w.ProjectTop manifests start root)
    (h' : w.ProjectTop manifests start root') : root'.length ≤ root.length := by
  by_contra hlength
  have hnone := h.nearest root' h'.above (Nat.lt_of_not_le hlength)
  rcases h'.manifest with hsome | ⟨rfl, hnowhere⟩
  · cases hnone.symm.trans hsome
  · rcases h.manifest with hsome | ⟨rfl, -⟩
    · cases (hnowhere root h.above).symm.trans hsome
    · exact hlength (Nat.le_refl _)

/-- There is one project only. -/
theorem unique (h : w.ProjectTop manifests start root)
    (h' : w.ProjectTop manifests start root') : root = root' := by
  have hle := List.prefix_of_prefix_length_le h.above h'.above (h'.length_le h)
  exact hle.eq_of_length_le (h.length_le h')

end ProjectTop

/-- **A search that ends has found the project.** -/
theorem exists_projectTop {real root : Path} (htop : real.anchor = .top)
    (h : w.projectRootAbove manifests real = .ok root) :
    ∃ there, root = pathOf there ∧ w.ProjectTop manifests (w.searchStart real) there := by
  obtain ⟨-, found, hfound, rfl⟩ := (projectRootAbove_eq_ok_iff htop).mp h
  cases found with
  | none =>
    have hnone : ∀ q, q <+: w.searchStart real → w.hasManifest manifests (pathOf q) = .ok false :=
      fun q hq => of_findM?_eq_none hfound _
        (List.mem_map.mpr ⟨q, mem_placesAbove_iff.mpr hq, rfl⟩)
    exact ⟨_, rfl, List.prefix_rfl, fun q hq _ => hnone q hq, Or.inr ⟨rfl, hnone⟩⟩
  | some root =>
    obtain ⟨hmanifest, before, after, hsplit, hbefore⟩ := of_findM?_eq_some hfound
    obtain ⟨near, far, hplaces, rfl, hrest⟩ := List.map_eq_append_iff.mp hsplit
    obtain ⟨there, after, rfl, rfl, -⟩ := List.map_eq_cons_iff.mp hrest
    refine ⟨there, rfl, ?_, fun q hq hlength => ?_, Or.inl hmanifest⟩
    · refine mem_placesAbove_iff.mp ?_
      rw [hplaces]
      exact List.mem_append_right _ (List.mem_cons_self ..)
    · exact hbefore _ (List.mem_map_of_mem (mem_of_placesAbove_split hplaces hq hlength))

/-- What is at a real place is searched for from a directory. -/
theorem directoryAt_searchStart (hplain : ∀ s ∈ place, IsPlain s) (h : w.top.at? place = some e)
    (hlink : e.isLink = false) (htop : w.top.DirectoryAt []) :
    w.top.DirectoryAt (w.searchStart (pathOf place)) := by
  have hentry := entry_pathOf hplain h hlink
  cases e with
  | link _ => cases hlink
  | directory es =>
    rw [searchStart, isFile, hentry]
    exact ⟨es, h⟩
  | file content =>
    rw [searchStart, isFile, hentry]
    change w.top.DirectoryAt place.dropLast
    rcases List.eq_nil_or_concat place with rfl | ⟨above, s, rfl⟩
    · exact htop
    · rw [List.concat_eq_append, List.dropLast_concat]
      rw [List.concat_eq_append] at h
      exact Entry.directoryAt_of_at?_append h

/-- The project of what is there is a directory. -/
theorem ProjectTop.directoryAt {root : Place}
    (h : w.ProjectTop manifests (w.searchStart (pathOf place)) root)
    (hplain : ∀ s ∈ place, IsPlain s) (hat : w.top.at? place = some e) (hlink : e.isLink = false)
    (htop : w.top.DirectoryAt []) : w.top.DirectoryAt root := by
  obtain ⟨down, hdown⟩ := h.above
  have hstart := directoryAt_searchStart hplain hat hlink htop
  rw [← hdown] at hstart
  cases down with
  | nil => exact List.append_nil root ▸ hstart
  | cons s rest =>
    obtain ⟨es, hes⟩ := hstart
    exact Entry.directoryAt_of_at?_append hes

end Workspace

end Preflight
