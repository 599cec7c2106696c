import Mathlib.Data.List.Nodup
import Mathlib.Data.List.Perm.Subperm
import Mathlib.Data.Nat.Find
import Preflight.Proofs.FileTree.Route

/-!
# The real path of what is there

Following a path counts links, and working out its real path remembers the links that are being
followed. Where the one arrives so does the other: a link that was met again while it is followed
would have used up more links than were allowed. So what is at a path has a real path, which leads
to it without links.

## Main definitions

* `Entry.names`: the names of all entries of a tree.
* `Workspace.NamesFit`: a tree whose names can be looked up.
* `Entry.linkPlaces`: where the links of a tree are.
* `Entry.Unfinished`: links that are being followed.

## Main results

* `Route.realFrom_eq`: where a route arrives, so does the real path.
* `Workspace.exists_real`: what is at a path has a real path.
-/

namespace Preflight

/-! ### The names of a tree -/

mutual

/-- The names of all entries below this one. -/
def Entry.names : Entry → List String
  | .file _ | .link _ => []
  | .directory es => Entry.namesAll es

/-- The names of some entries and of all entries below them. -/
def Entry.namesAll : List (String × Entry) → List String
  | [] => []
  | (name, e) :: rest => name :: (e.names ++ Entry.namesAll rest)

end

/-- A file tree as a file system holds it: no name is too long to be looked up, and none holds the
character that ends a text. -/
def Workspace.NamesFit (w : Workspace) : Prop :=
  ∀ s ∈ w.top.names, s.utf8ByteSize ≤ nameLimit ∧ Char.ofNat 0 ∉ s.toList

namespace Entry

variable {top e : Entry} {place : Place}

theorem mem_namesAll_of_lookup {es : List (String × Entry)} {name : String}
    (h : es.lookup name = some e) : name ∈ namesAll es ∧ e.names ⊆ namesAll es := by
  induction es with
  | nil => cases h
  | cons entry rest ih =>
    obtain ⟨n, old⟩ := entry
    rw [namesAll]
    rw [List.lookup_cons] at h
    split at h
    · next hn =>
      obtain rfl := Option.some.inj h
      rw [beq_iff_eq.mp hn]
      exact ⟨List.mem_cons_self .., fun s hs => List.mem_cons_of_mem _ (List.mem_append_left _ hs)⟩
    · obtain ⟨hname, hnames⟩ := ih h
      exact ⟨List.mem_cons_of_mem _ (List.mem_append_right _ hname),
        fun s hs => List.mem_cons_of_mem _ (List.mem_append_right _ (hnames hs))⟩

/-- The segments that lead to an entry are names of the tree. -/
theorem mem_names_of_at? (h : top.at? place = some e) : ∀ s ∈ place, s ∈ top.names := by
  induction place generalizing top with
  | nil => simp
  | cons name rest ih =>
    obtain ⟨c, hc, hrest⟩ := Option.bind_eq_some_iff.mp h
    cases top with
    | file _ | link _ => cases hc
    | directory es =>
      obtain ⟨hname, hnames⟩ := mem_namesAll_of_lookup hc
      exact List.forall_mem_cons.mpr ⟨hname, fun s hs => hnames (ih hrest s hs)⟩

end Entry

/-- The segments of a route that leads somewhere are directions and names of the tree. -/
theorem Route.mem_names_of_ok {top : Entry} {budget : Nat} {place : Place} {segments : List String}
    {arrival : Place × Nat} (h : Route top budget place segments (.ok arrival)) :
    ∀ s ∈ segments, isDirection s ∨ s ∈ top.names := by
  generalize hend : (Except.ok arrival : Except FileError (Place × Nat)) = o at h
  induction h with
  | arrives => simp
  | noDirectory hplace | tooLong hplace | missing hplace | noLinksLeft hplace => cases hend
  | stays _ hs _ ih => exact List.forall_mem_cons.mpr ⟨Or.inl (hs.imp_right Or.inl), ih hend⟩
  | goesUp _ _ ih => exact List.forall_mem_cons.mpr ⟨Or.inl (Or.inr (Or.inr rfl)), ih hend⟩
  | followsLink _ _ hlink _ ih =>
    have hname := Entry.mem_names_of_at? hlink _
      (List.mem_append_right _ (List.mem_singleton_self _))
    refine List.forall_mem_cons.mpr ⟨Or.inr hname, fun t ht => ?_⟩
    exact ih hend t (List.mem_append_right _ ht)
  | goesDown _ _ he _ _ ih =>
    have hname := Entry.mem_names_of_at? he _ (List.mem_append_right _ (List.mem_singleton_self _))
    exact List.forall_mem_cons.mpr ⟨Or.inr hname, ih hend⟩

/-! ### The links of a tree -/

mutual

/-- The places of all links below an entry. -/
def Entry.linkPlaces : Entry → List Place
  | .file _ => []
  | .link _ => [[]]
  | .directory es => Entry.linkPlacesAll es

/-- The places of all links at and below some entries. -/
def Entry.linkPlacesAll : List (String × Entry) → List Place
  | [] => []
  | (name, e) :: rest => e.linkPlaces.map (name :: ·) ++ Entry.linkPlacesAll rest

end

namespace Entry

mutual

theorem length_linkPlaces (e : Entry) : e.linkPlaces.length = e.linkCount := by
  cases e with
  | file _ => rfl
  | link _ => rfl
  | directory es =>
    rw [linkPlaces, linkCount]
    exact length_linkPlacesAll es

theorem length_linkPlacesAll (es : List (String × Entry)) :
    (linkPlacesAll es).length = linkCountAll es := by
  match es with
  | [] => rfl
  | (name, e) :: rest =>
    rw [linkPlacesAll, linkCountAll, List.length_append, List.length_map, length_linkPlaces e,
      length_linkPlacesAll rest]

end

theorem cons_mem_linkPlacesAll {es : List (String × Entry)} {name : String} {e : Entry}
    {place : Place} (h : es.lookup name = some e) (hplace : place ∈ e.linkPlaces) :
    name :: place ∈ linkPlacesAll es := by
  induction es with
  | nil => cases h
  | cons entry rest ih =>
    obtain ⟨n, old⟩ := entry
    rw [linkPlacesAll, List.mem_append]
    rw [List.lookup_cons] at h
    split at h
    · next hn =>
      obtain rfl := Option.some.inj h
      rw [beq_iff_eq.mp hn]
      exact Or.inl (List.mem_map_of_mem hplace)
    · exact Or.inr (ih h)

theorem mem_linkPlaces {e : Entry} {place : Place} {target : String}
    (h : e.at? place = some (.link target)) : place ∈ e.linkPlaces := by
  induction place generalizing e with
  | nil =>
    obtain rfl := Option.some.inj h
    exact List.mem_singleton_self _
  | cons name rest ih =>
    obtain ⟨c, hc, hrest⟩ := Option.bind_eq_some_iff.mp h
    cases e with
    | file _ | link _ => cases hc
    | directory es => exact cons_mem_linkPlacesAll hc (ih hrest)

/-- There are no more different places of links than links. -/
theorem length_le_linkCount {e : Entry} {places : List Place} (hnodup : places.Nodup)
    (h : ∀ p ∈ places, ∃ target, e.at? p = some (.link target)) :
    places.length ≤ e.linkCount := by
  have hsubset : places ⊆ e.linkPlaces := fun p hp => by
    obtain ⟨target, htarget⟩ := h p hp
    exact mem_linkPlaces htarget
  rw [← length_linkPlaces]
  exact (List.subperm_of_subset hnodup hsubset).length_le

end Entry

/-! ### Where real paths lead -/

/-- Links that are being followed, when a number of links may still be followed: none of them leads
anywhere by fewer links than that. -/
structure Entry.Unfinished (top : Entry) (budget : Nat) (active : List Place) : Prop where
  nodup : active.Nodup
  isLink : ∀ p ∈ active, ∃ target, top.at? p = some (.link target)
  unreached : ∀ p ∈ active, ∀ place s target, p = place ++ [s] →
    top.at? p = some (.link target) → ∀ less < budget, ∀ arrival,
    ¬Route top less (linkStart target place) (linkSegments target) (.ok arrival)

namespace Entry.Unfinished

variable {top : Entry} {budget less : Nat} {active : List Place}

theorem mono (h : top.Unfinished budget active) (hle : less ≤ budget) :
    top.Unfinished less active :=
  ⟨h.nodup, h.isLink, fun p hp place s target hsplit hlink b hb =>
    h.unreached p hp place s target hsplit hlink b (Nat.lt_of_lt_of_le hb hle)⟩

/-- A link that leads somewhere by the links that may be followed is not one of them. Followed by as
few links as possible, it is one more. -/
theorem enter (h : top.Unfinished budget active) {place : Place} {s target : String}
    (hlink : top.at? (place ++ [s]) = some (.link target)) {b : Nat} (hb : b < budget)
    {arrival : Place × Nat}
    (hroute : Route top b (linkStart target place) (linkSegments target) (.ok arrival)) :
    place ++ [s] ∉ active ∧ ∃ least ≤ b, ∃ left,
      Route top least (linkStart target place) (linkSegments target) (.ok (arrival.1, left)) ∧
        top.Unfinished least ((place ++ [s]) :: active) := by
  classical
  have hfresh : place ++ [s] ∉ active := fun hmem =>
    h.unreached _ hmem place s target rfl hlink b hb arrival hroute
  have hexists : ∃ b arrival,
      Route top b (linkStart target place) (linkSegments target) (.ok arrival) :=
    ⟨b, arrival, hroute⟩
  have hleast : Nat.find hexists ≤ b := Nat.find_min' hexists ⟨arrival, hroute⟩
  obtain ⟨⟨there, left⟩, hthere⟩ := Nat.find_spec hexists
  -- more links lead to the same place
  have hmore := hthere.add_budget nofun (b - Nat.find hexists)
  rw [Nat.add_sub_cancel' hleast] at hmore
  obtain rfl : there = arrival.1 := congrArg Prod.fst (Except.ok.inj (hmore.unique hroute))
  refine ⟨hfresh, Nat.find hexists, hleast, left, hthere, ?_⟩
  exact {
    nodup := List.nodup_cons.mpr ⟨hfresh, h.nodup⟩
    isLink := List.forall_mem_cons.mpr ⟨⟨target, hlink⟩, h.isLink⟩
    unreached := by
      intro p hp place' s' target' hsplit hlink' less hless arrival' hroute'
      rcases List.mem_cons.mp hp with rfl | hp
      · obtain ⟨rfl, hs⟩ := List.append_inj' hsplit rfl
        obtain rfl := List.singleton_inj.mp hs
        rw [hlink, Option.some.injEq, Entry.link.injEq] at hlink'
        subst hlink'
        exact Nat.find_min hexists hless ⟨arrival', hroute'⟩
      · have hbound : less < budget := by omega
        exact h.unreached p hp place' s' target' hsplit hlink' less hbound arrival' hroute' }

end Entry.Unfinished

section realFrom

variable {top : Entry} {budget depth : Nat} {active : List Place} {place : Place} {s : String}
  {segments : List String}

/-- What working out a real path does at a link, with links that are being followed. -/
def realLinkOf (top : Entry) : Nat → List Place → Place → Place → String → Place × Bool
  | 0, _, here, _, _ => (here, false)
  | depth + 1, active, here, place, target =>
    if active.contains here then (here, false)
    else realFrom top depth (here :: active) (linkStart target place) (linkSegments target)

theorem realFrom_eq_realThrough (top : Entry) (depth : Nat) (active : List Place) :
    realFrom top depth active = realThrough top (realLinkOf top depth active) := by
  cases depth with
  | zero => rfl
  | succ depth =>
    rw [realFrom]
    congr 1
    funext here place target
    simp only [realLinkOf, List.contains_iff_mem]

/-- What working out a real path does at a segment that is looked up. -/
theorem realThrough_plain {ofLink : Place → Place → String → Place × Bool} (hs : ¬isDirection s)
    (rest : List String) :
    realThrough top ofLink place (s :: rest) =
      match top.at? (place ++ [s]) with
      | some (.link target) =>
        let (there, finished) := ofLink (place ++ [s]) place target
        if finished then realThrough top ofLink there rest else (there ++ rest, false)
      | _ => realThrough top ofLink (place ++ [s]) rest := by
  obtain ⟨hempty, hdot, hdots⟩ : s ≠ "" ∧ s ≠ "." ∧ s ≠ ".." := by
    simpa only [isDirection, not_or] using hs
  rw [realThrough]
  exact (if_neg (by simp [hempty, hdot])).trans (if_neg hdots)

/-- Names that meet no link lead on as they are written. -/
theorem realThrough_straight {ofLink : Place → Place → String → Place × Bool}
    (hplain : ∀ s ∈ segments, ¬isDirection s)
    (hlinks : ∀ q, q <+: segments → ∀ target, top.at? (place ++ q) ≠ some (.link target)) :
    realThrough top ofLink place segments = (place ++ segments, true) := by
  induction segments generalizing place with
  | nil => rw [realThrough, List.append_nil]
  | cons s rest ih =>
    obtain ⟨hs, hrest⟩ := List.forall_mem_cons.mp hplain
    have hnext : realThrough top ofLink (place ++ [s]) rest = (place ++ s :: rest, true) := by
      rw [ih hrest fun q hq target => ?_, List.append_assoc, List.singleton_append]
      rw [List.append_assoc, List.singleton_append]
      exact hlinks _ ((List.prefix_cons_inj s).mpr hq) target
    have hhere := hlinks [s] ((List.prefix_cons_inj s).mpr List.nil_prefix)
    rw [realThrough_plain hs]
    split
    · next target htarget => exact absurd htarget (hhere target)
    · exact hnext

/-- A route that meets no link does not run out of links. -/
theorem Route.ne_tooManyLinks {o : Except FileError (Place × Nat)}
    (h : Route top budget place segments o) (hplain : ∀ s ∈ segments, ¬isDirection s)
    (hlinks : ∀ q, q <+: segments → ∀ target, top.at? (place ++ q) ≠ some (.link target)) :
    o ≠ .error .tooManyLinks := by
  induction segments generalizing place with
  | nil =>
    cases h
    exact nofun
  | cons s rest ih =>
    obtain ⟨hs, hrest⟩ := List.forall_mem_cons.mp hplain
    have hhere := hlinks [s] ((List.prefix_cons_inj s).mpr List.nil_prefix)
    cases h with
    | noDirectory _ | tooLong _ _ _ | missing _ _ _ => exact nofun
    | stays _ hdirection => exact absurd (hdirection.imp_right Or.inl) hs
    | goesUp => exact absurd (Or.inr (Or.inr rfl)) hs
    | noLinksLeft _ _ hlink | followsLink _ _ hlink => exact absurd hlink (hhere _)
    | goesDown _ _ _ _ h =>
      refine ih h hrest fun q hq target => ?_
      rw [List.append_assoc, List.singleton_append]
      exact hlinks _ ((List.prefix_cons_inj s).mpr hq) target

/-- **Where a route arrives, so does the real path**, as long as the links that are being followed
lead nowhere by fewer links than may still be followed. -/
theorem Route.realFrom_eq {place' : Place} {left : Nat}
    (h : Route top budget place segments (.ok (place', left)))
    (hactive : top.Unfinished budget active) (hdepth : top.linkCount < active.length + depth) :
    realFrom top depth active place segments = (place', true) := by
  induction budget using Nat.strongRecOn generalizing depth active place segments place' left with
  | ind budget ihLinks =>
    rw [realFrom_eq_realThrough]
    induction segments generalizing place with
    | nil =>
      cases h
      rfl
    | cons s rest ih =>
      cases h with
      | stays hplace hs h =>
        rw [realThrough, if_pos (by simpa using hs)]
        exact ih h
      | goesUp hplace h =>
        rw [realThrough, if_neg (by decide), if_pos rfl]
        exact ih h
      | @goesDown _ _ _ _ e _ hplace hs he hnoLink h =>
        rw [realThrough_plain hs.1, he]
        cases e with
        | file _ | directory _ => exact ih h
        | link _ => cases hnoLink
      | @followsLink b _ _ _ target _ hplace hs hlink h =>
        obtain ⟨error, -, herror⟩ | ⟨there, left', hthere, hrest⟩ := h.append_cases
        · cases herror
        obtain ⟨hfresh, least, hleast, left'', hshort, hentered⟩ :=
          hactive.enter hlink (Nat.lt_succ_self b) hthere
        have hcount : active.length + 1 ≤ top.linkCount :=
          Entry.length_le_linkCount hentered.nodup hentered.isLink
        obtain ⟨depth, rfl⟩ : ∃ d, depth = d + 1 := ⟨depth - 1, by omega⟩
        have hlinked : realLinkOf top (depth + 1) active (place ++ [s]) place target =
            (there, true) := by
          have hdeeper : top.linkCount < ((place ++ [s]) :: active).length + depth := by
            rw [List.length_cons]
            omega
          rw [realLinkOf, if_neg (by rwa [List.contains_iff_mem])]
          exact ihLinks least (Nat.lt_succ_of_le hleast) hshort hentered hdeeper
        have hleft : left' < b + 1 := Nat.lt_succ_of_le hthere.left_le
        rw [realThrough_plain hs.1, hlink]
        dsimp only
        rw [hlinked]
        dsimp only
        rw [if_pos rfl, ← realFrom_eq_realThrough]
        exact ihLinks left' hleft hrest (hactive.mono (Nat.le_of_lt hleft)) hdepth

end realFrom

/-! ### Real paths of what is there -/

namespace Workspace

variable {w : Workspace} {p : Path} {e : Entry} {place : Place}

/-- Names of a well-named tree that can be looked up. -/
theorem NamesFit.isPlain_of_at? (hfit : w.NamesFit) (hw : w.WellNamed)
    (h : w.top.at? place = some e) : ∀ s ∈ place, IsPlain s := fun s hs =>
  ⟨not_isDirection_of_isFileName (Entry.names_of_at? hw h s hs),
    (hfit s (Entry.mem_names_of_at? h s hs)).1⟩

/-- A path to something holds no character that no name can hold. -/
theorem NamesFit.hasNull_eq_false (hfit : w.NamesFit) (h : w.entry p = .ok e) :
    hasNull p = false := by
  obtain ⟨place, hplace, -⟩ := entry_eq_ok_iff.mp h
  obtain ⟨left, hroute⟩ := exists_route_of_follow hplace
  rw [hasNull, List.any_eq_false]
  intro s hs
  rw [List.contains_iff_mem]
  rcases hroute.mem_names_of_ok s hs with (rfl | rfl | rfl) | hname
  · decide
  · decide
  · decide
  · exact (hfit s hname).2

/-- What is at a place by names only is at its path. -/
theorem entry_pathOf (hplain : ∀ s ∈ place, IsPlain s) (h : w.top.at? place = some e)
    (hlink : e.isLink = false) : w.entry (pathOf place) = .ok e := by
  have hroute : Route w.top linkBudget [] place _ := Route.straight hplain h hlink linkBudget
  exact entry_eq_ok_iff.mpr ⟨place, hroute.follow_eq, h⟩

/-- A real path that was worked out to its end and holds no directions is taken as it is. -/
theorem realPlace_eq (hplain : ∀ s ∈ place, ¬isDirection s) {finished : Bool}
    (h : realFrom w.top (w.top.linkCount + 1) [] (w.start p) p.segments = (place, finished)) :
    w.realPlace p = pathOf place := by
  have hsegments : place.filter Path.isSegment = place := by
    refine List.filter_eq_self.mpr fun s hs => ?_
    obtain ⟨hempty, hdot, -⟩ : s ≠ "" ∧ s ≠ "." ∧ s ≠ ".." := by
      simpa only [isDirection, not_or] using hplain s hs
    simp [Path.isSegment, hempty, hdot]
  rw [realPlace, h, Path.normalize, pathOf]
  dsimp only
  rw [hsegments, Path.normalizeFrom_eq fun s hs hdots => hplain s hs (Or.inr (Or.inr hdots))]
  rfl

/-- **What is at a path has a real path**, which leads to it without links. -/
theorem exists_real (hw : w.WellNamed) (hfit : w.NamesFit) (h : w.entry p = .ok e)
    (hlink : e.isLink = false) :
    ∃ place, w.realPath p = .ok (pathOf place) ∧ w.top.at? place = some e ∧
      (∀ s ∈ place, isFileName s = true ∧ IsPlain s) ∧ w.entry (pathOf place) = .ok e := by
  obtain ⟨place, hplace, hat⟩ := entry_eq_ok_iff.mp h
  have hplain := hfit.isPlain_of_at? hw hat
  have hentry := entry_pathOf hplain hat hlink
  obtain ⟨left, hroute⟩ := exists_route_of_follow hplace
  have hactive : w.top.Unfinished linkBudget [] :=
    ⟨List.nodup_nil, fun q hq => absurd hq List.not_mem_nil,
      fun q hq => absurd hq List.not_mem_nil⟩
  have hreal : w.realPlace p = pathOf place :=
    realPlace_eq (fun s hs => (hplain s hs).1) (hroute.realFrom_eq hactive (by simp))
  refine ⟨place, ?_, hat, fun s hs => ⟨Entry.names_of_at? hw hat s hs, hplain s hs⟩, hentry⟩
  rw [realPath, hfit.hasNull_eq_false h, if_neg Bool.false_ne_true]
  dsimp only
  rw [hreal, hentry]

/-- From a directory, what exists is no link. -/
theorem exists_entry_of_exists (hw : w.WellNamed) (hfit : w.NamesFit)
    (hcurrent : w.top.DirectoryAt w.current) (h : w.exists? p = .ok true) :
    ∃ e, w.entry p = .ok e ∧ e.isLink = false := by
  obtain ⟨e, he⟩ := exists?_eq_true_iff.mp h
  obtain ⟨place, hplace, hat⟩ := entry_eq_ok_iff.mp he
  obtain ⟨left, hroute⟩ := exists_route_of_follow hplace
  have hstart : w.top.RealAt (w.start p) := by
    rw [start]
    split
    · exact Entry.realAt_nil hcurrent
    · obtain ⟨es, hes⟩ := hcurrent
      exact .of_directoryAt (hfit.isPlain_of_at? hw hes) ⟨es, hes⟩
  obtain ⟨-, e', he', hlink⟩ := hroute.realAt hstart
  obtain rfl : e' = e := Option.some.inj (he'.symm.trans hat)
  exact ⟨e', he, hlink⟩

/-- A path by names only that meets no link is its own real path, whether something is there or
not. -/
theorem realPath_pathOf (hplain : ∀ s ∈ place, ¬isDirection s)
    (hnull : ∀ s ∈ place, Char.ofNat 0 ∉ s.toList)
    (hlinks : ∀ q, q <+: place → ∀ target, w.top.at? q ≠ some (.link target)) :
    w.realPath (pathOf place) = .ok (pathOf place) := by
  have hnoNull : hasNull (pathOf place) = false := by
    rw [hasNull, List.any_eq_false]
    intro s hs
    rw [List.contains_iff_mem]
    exact hnull s hs
  have hreal : w.realPlace (pathOf place) = pathOf place := by
    refine realPlace_eq hplain (?_ : _ = (place, true))
    rw [realFrom_eq_realThrough]
    exact realThrough_straight hplain hlinks
  have hentry : w.entry (pathOf place) ≠ .error .tooManyLinks := by
    intro h
    have hlocate := (entry_eq_error_iff (f := .tooManyLinks) nofun).mp h
    have hroute := exists_route_of_follow_error hlocate
    exact hroute.ne_tooManyLinks hplain hlinks rfl
  rw [realPath, hnoNull, if_neg Bool.false_ne_true]
  dsimp only
  rw [hreal]
  split
  · next h => exact absurd h hentry
  · rfl

end Workspace

end Preflight
