import Preflight.Proofs.FileTree.NewFile
import Preflight.Proofs.FileTree.Route

/-!
# Routes through a tree that grew

In a tree that grew by a file every route leads where it led, unless it gave up because something
was missing. A route that gave up for that reason may now lead somewhere or give up for another
reason, but not because of a segment that is too long, if its segments are not and if no link is
mended by the file.

## Main definitions

* `Entry.MendsNoLink`: a link of a tree that led to nothing leads to nothing in another.

## Main results

* `Route.grow`: routes that are kept.
* `Route.nameTooLong_of_grow`: no segment is found too long that was not.
-/

namespace Preflight

/-- A link of a tree that leads to nothing leads nowhere in another tree either, and what keeps it
from leading anywhere there is no segment that is too long. -/
def Entry.MendsNoLink (top top' : Entry) : Prop :=
  ∀ p target, top.at? p = some (.link target) → follow top linkBudget [] p = .error .notFound →
    ∃ e, follow top' linkBudget [] p = .error e ∧ e ≠ .nameTooLong

namespace Entry

variable {top top' e e' : Entry} {new place : Place}

/-- Entries of one kind are the same, or both directories. -/
theorem SameKind.eq_or_directory (h : e.SameKind e') :
    e' = e ∨ ∃ es es', e = directory es ∧ e' = directory es' := by
  cases e with
  | file content =>
    cases e' with
    | file _ => exact Or.inl (congrArg file h.symm)
    | link _ | directory _ => exact h.elim
  | link target =>
    cases e' with
    | link _ => exact Or.inl (congrArg link h.symm)
    | file _ | directory _ => exact h.elim
  | directory es =>
    cases e' with
    | directory es' => exact Or.inr ⟨es, es', rfl, rfl⟩
    | file _ | link _ => exact h.elim

theorem SameKind.isLink_eq (h : e.SameKind e') : e.isLink = e'.isLink := by
  obtain rfl | ⟨es, es', rfl, rfl⟩ := h.eq_or_directory
  · rfl
  · rfl

theorem SameKind.isFile_eq (h : e.SameKind e') : e.isFile = e'.isFile := by
  obtain rfl | ⟨es, es', rfl, rfl⟩ := h.eq_or_directory
  · rfl
  · rfl

theorem SameKind.isDirectory_eq (h : e.SameKind e') : e.isDirectory = e'.isDirectory := by
  obtain rfl | ⟨es, es', rfl, rfl⟩ := h.eq_or_directory
  · rfl
  · rfl

theorem SameKind.eq_link {target : String} (h : (link target).SameKind e') :
    e' = link target := by
  obtain heq | ⟨es, es', hdirectory, -⟩ := h.eq_or_directory
  · exact heq
  · cases hdirectory

theorem SameKind.eq_file {content : List UInt8} (h : (file content).SameKind e') :
    e' = file content := by
  obtain heq | ⟨es, es', hdirectory, -⟩ := h.eq_or_directory
  · exact heq
  · cases hdirectory

namespace GrewBy

theorem directoryAt (hgrew : top.GrewBy top' new) (h : top.DirectoryAt place) :
    top'.DirectoryAt place := by
  obtain ⟨es, hes⟩ := h
  obtain ⟨e', he', hkind⟩ := hgrew.kept hes
  cases e' with
  | directory es' => exact ⟨es', he'⟩
  | file _ | link _ => exact hkind.elim

theorem directoryAt_of_isSome (hgrew : top.GrewBy top' new) (hplace : (top.at? place).isSome)
    (h : top'.DirectoryAt place) : top.DirectoryAt place := by
  obtain ⟨e, he⟩ := Option.isSome_iff_exists.mp hplace
  obtain ⟨es, hes⟩ := h
  obtain ⟨e', he', hkind⟩ := hgrew.kept he
  rw [hes, Option.some.injEq] at he'
  subst he'
  cases e with
  | directory es' => exact ⟨es', he⟩
  | file _ | link _ => exact hkind.elim

/-- The links of the two trees are the same. -/
theorem at?_eq_link_iff (hgrew : top.GrewBy top' new) {target : String} :
    top'.at? place = some (link target) ↔ top.at? place = some (link target) := by
  constructor
  · intro h'
    cases hat : top.at? place with
    | none =>
      obtain ⟨-, hkind⟩ := hgrew.fresh hat h'
      rcases hkind with hkind | ⟨-, hkind⟩
      · cases hkind
      · cases hkind
    | some e =>
      obtain ⟨e', he', hkind⟩ := hgrew.kept hat
      rw [h', Option.some.injEq] at he'
      subst he'
      cases e with
      | link _ => exact congrArg (fun t => some (link t)) hkind
      | file _ | directory _ => exact hkind.elim
  · intro h
    obtain ⟨e', he', hkind⟩ := hgrew.kept h
    rw [he', hkind.eq_link]

theorem realAt (hgrew : top.GrewBy top' new) (h : top.RealAt place) : top'.RealAt place := by
  obtain ⟨hplain, e, he, hnoLink⟩ := h
  obtain ⟨e', he', hkind⟩ := hgrew.kept he
  exact ⟨hplain, e', he', hkind.isLink_eq ▸ hnoLink⟩

end GrewBy

theorem linkCount_of_lookup {es : List (String × Entry)} (h : linkCountAll es = 0) {name : String}
    {c : Entry} (hc : es.lookup name = some c) : c.linkCount = 0 := by
  induction es with
  | nil => cases hc
  | cons entry rest ih =>
    obtain ⟨n, old⟩ := entry
    rw [linkCountAll] at h
    rw [List.lookup_cons] at hc
    split at hc
    · obtain rfl := Option.some.inj hc
      omega
    · exact ih (by omega) hc

/-- In a tree without links there is none to mend. -/
theorem mendsNoLink_of_linkCount (h : top.linkCount = 0) (top' : Entry) : top.MendsNoLink top' := by
  intro p target hlink
  refine absurd hlink ?_
  induction p generalizing top with
  | nil =>
    rintro hlink
    obtain rfl := Option.some.inj hlink
    cases h
  | cons name rest ih =>
    intro hlink
    obtain ⟨c, hc, hrest⟩ := Option.bind_eq_some_iff.mp hlink
    cases top with
    | file _ | link _ => cases hc
    | directory es => exact ih (linkCount_of_lookup h hc) hrest hrest

/-- Nothing is below a place where nothing is. -/
theorem at?_append_of_none (h : top.at? place = none) (below : Place) :
    top.at? (place ++ below) = none := by
  rw [at?_append, h]
  rfl

end Entry

namespace Route

variable {top top' : Entry} {new place : Place} {budget : Nat} {s : String}
  {segments : List String} {o o' : Except FileError (Place × Nat)}

/-- **Routes are kept** in a tree that grew, unless they gave up because something was missing. -/
theorem grow (hgrew : top.GrewBy top' new) (h : Route top budget place segments o)
    (hplace : (top.at? place).isSome) (ho : o ≠ .error .notFound) :
    Route top' budget place segments o := by
  induction h with
  | arrives => exact .arrives
  | noDirectory hdirectory =>
    exact .noDirectory fun h => hdirectory (hgrew.directoryAt_of_isSome hplace h)
  | stays hdirectory hs _ ih => exact .stays (hgrew.directoryAt hdirectory) hs (ih hplace ho)
  | goesUp hdirectory _ ih =>
    obtain ⟨es, hes⟩ := Entry.directoryAt_dropLast hdirectory
    exact .goesUp (hgrew.directoryAt hdirectory) (ih (by simp [hes]) ho)
  | tooLong hdirectory hs hlong => exact .tooLong (hgrew.directoryAt hdirectory) hs hlong
  | missing => exact absurd rfl ho
  | noLinksLeft hdirectory hs hlink =>
    exact .noLinksLeft (hgrew.directoryAt hdirectory) hs (hgrew.at?_eq_link_iff.mpr hlink)
  | @followsLink _ place _ _ target _ hdirectory hs hlink _ ih =>
    refine .followsLink (hgrew.directoryAt hdirectory) hs (hgrew.at?_eq_link_iff.mpr hlink)
      (ih ?_ ho)
    rw [linkStart]
    split
    · rfl
    · exact hplace
  | goesDown hdirectory hs he hnoLink _ ih =>
    obtain ⟨e', he', hkind⟩ := hgrew.kept he
    exact .goesDown (hgrew.directoryAt hdirectory) hs he' (hkind.isLink_eq ▸ hnoLink)
      (ih (by simp [he]) ho)

/-- What is new holds no links, so a route through it gives up for a segment that is too long only
where there is one. -/
theorem ne_nameTooLong_of_none (hgrew : top.GrewBy top' new) (hnone : top.at? place = none)
    (hplain : ∀ s ∈ segments, IsPlain s) (h : Route top' budget place segments o) :
    o ≠ .error .nameTooLong := by
  induction segments generalizing place with
  | nil =>
    cases h
    exact nofun
  | cons s rest ih =>
    obtain ⟨hs, hrest⟩ := List.forall_mem_cons.mp hplain
    have hnext : top.at? (place ++ [s]) = none := Entry.at?_append_of_none hnone [s]
    cases h with
    | noDirectory | missing | noLinksLeft => exact nofun
    | stays _ hdirection => exact absurd (hdirection.imp_right Or.inl) hs.1
    | goesUp => exact absurd (Or.inr (Or.inr rfl)) hs.1
    | tooLong _ _ hlong => exact absurd hs.2 (Nat.not_le.mpr hlong)
    | followsLink _ _ hlink =>
      rw [hgrew.at?_eq_link_iff, hnext] at hlink
      cases hlink
    | goesDown _ _ _ _ h => exact ih hnext hrest h

/-- Where a link leads, its whole place leads. -/
theorem of_link (hreal : top.RealAt place) (hdirectory : top.DirectoryAt place) (hs : IsPlain s)
    {target : String} (hlink : top.at? (place ++ [s]) = some (.link target))
    (hbudget : budget < linkBudget)
    (h : Route top budget (linkStart target place) (linkSegments target) o)
    (ho : o ≠ .error .tooManyLinks) :
    Route top linkBudget [] (place ++ [s])
      (o.map fun arrival => (arrival.1, arrival.2 + (linkBudget - 1 - budget))) := by
  obtain ⟨hplain, e, he, hnoLink⟩ := hreal
  have hplace : Route top linkBudget [] place (.ok (place, linkBudget)) :=
    straight hplain he hnoLink linkBudget
  have hall := h.add_budget ho (linkBudget - 1 - budget)
  rw [Nat.add_sub_cancel' (Nat.le_sub_one_of_lt hbudget)] at hall
  refine hplace.append (.followsLink hdirectory hs hlink ?_)
  rw [List.append_nil]
  exact hall

/-- The rest of the path of a link that led to nothing leads nowhere, and not because of a segment
that is too long. -/
theorem link_notFound_grow (hgrew : top.GrewBy top' new) (hlinks : top.MendsNoLink top')
    (hreal : top.RealAt place) (hdirectory : top.DirectoryAt place) (hs : IsPlain s)
    {target : String} (hlink : top.at? (place ++ [s]) = some (.link target))
    (hbudget : budget < linkBudget)
    (h : Route top budget (linkStart target place) (linkSegments target) (.error .notFound))
    (h' : Route top' budget (linkStart target place) (linkSegments target) o') :
    ∃ e, o' = .error e ∧ e ≠ .nameTooLong := by
  by_cases hmany : o' = .error .tooManyLinks
  · exact ⟨_, hmany, nofun⟩
  · have hwhole := of_link hreal hdirectory hs hlink hbudget h nofun
    have hwhole' := of_link (hgrew.realAt hreal) (hgrew.directoryAt hdirectory) hs
      (hgrew.at?_eq_link_iff.mpr hlink) hbudget h' hmany
    obtain ⟨e, he, hshort⟩ := hlinks _ _ hlink hwhole.follow_eq
    rw [hwhole'.follow_eq] at he
    cases o' with
    | error e' => exact ⟨e, congrArg Except.error (Except.error.inj he), hshort⟩
    | ok arrival => cases he

/-- A route that gave up because something was missing does not give up for a segment that is too
long, if none after the first is. -/
theorem ne_nameTooLong_of_notFound (hgrew : top.GrewBy top' new) (hlinks : top.MendsNoLink top')
    (hreal : top.RealAt place) (hbudget : budget ≤ linkBudget)
    (hdirections : ∀ s ∈ segments, ¬isDirection s) (hplain : ∀ s ∈ segments.tail, IsPlain s)
    (h : Route top budget place segments (.error .notFound))
    (h' : Route top' budget place segments o') : o' ≠ .error .nameTooLong := by
  induction segments generalizing place budget o' with
  | nil => cases h
  | cons s rest ih =>
    obtain ⟨hs, hrestDirections⟩ := List.forall_mem_cons.mp hdirections
    have hrestPlain : ∀ t ∈ rest.tail, IsPlain t := fun t ht =>
      hplain t (List.mem_of_mem_tail ht)
    cases h with
    | stays _ hdirection => exact absurd (hdirection.imp_right Or.inl) hs
    | goesUp => exact absurd (Or.inr (Or.inr rfl)) hs
    | missing hdirectory hs hnone =>
      cases h' with
      | noDirectory | missing | noLinksLeft => exact nofun
      | stays _ hdirection => exact absurd (hdirection.imp_right Or.inl) hs.1
      | goesUp => exact absurd (Or.inr (Or.inr rfl)) hs.1
      | tooLong _ _ hlong => exact absurd hs.2 (Nat.not_le.mpr hlong)
      | followsLink _ _ hlink =>
        rw [hgrew.at?_eq_link_iff, hnone] at hlink
        cases hlink
      | goesDown _ _ _ _ h' => exact ne_nameTooLong_of_none hgrew hnone hplain h'
    | @followsLink left _ _ _ target _ hdirectory hs hlink hroute =>
      obtain ⟨o₂, ho₂⟩ := exists_route top' left (linkStart target place)
        (linkSegments target ++ rest)
      obtain rfl := h'.unique
        (.followsLink (hgrew.directoryAt hdirectory) hs (hgrew.at?_eq_link_iff.mpr hlink) ho₂)
      have hstart := hreal.linkStart hdirectory target
      rcases hroute.append_cases with ⟨e, herror, heq⟩ | ⟨place', left', hok, hrest⟩
      · obtain rfl : e = .notFound := (Except.error.inj heq).symm
        obtain ⟨o₃, ho₃⟩ := exists_route top' left (linkStart target place) (linkSegments target)
        obtain ⟨e', rfl, hshort⟩ :=
          link_notFound_grow hgrew hlinks hreal hdirectory hs hlink hbudget herror ho₃
        rw [ho₂.unique (ho₃.append_error rest)]
        exact fun h => hshort (Except.error.inj h)
      · obtain ⟨o₄, ho₄⟩ := exists_route top' left' place' rest
        have hkept := hok.grow hgrew (by obtain ⟨-, e, he, -⟩ := hstart; simp [he]) nofun
        rw [ho₂.unique (hkept.append ho₄)]
        exact ih (hok.realAt hstart) (Nat.le_trans hok.left_le (Nat.le_of_succ_le hbudget))
          hrestDirections hrestPlain hrest ho₄
    | goesDown hdirectory hs he hnoLink hroute =>
      obtain ⟨e', he', hkind⟩ := hgrew.kept he
      obtain ⟨o₂, ho₂⟩ := exists_route top' budget (place ++ [s]) rest
      obtain rfl := h'.unique (.goesDown (hgrew.directoryAt hdirectory) hs he'
        (hkind.isLink_eq ▸ hnoLink) ho₂)
      refine ih ⟨fun t ht => ?_, _, he, hnoLink⟩ hbudget hrestDirections hrestPlain hroute ho₂
      rcases List.mem_append.mp ht with ht | ht
      · exact hreal.1 t ht
      · rw [List.mem_singleton.mp ht]
        exact hs

/-- **No segment is found too long that was not.** -/
theorem nameTooLong_of_grow (hgrew : top.GrewBy top' new) (hlinks : top.MendsNoLink top')
    (hreal : top.RealAt place) (hbudget : budget ≤ linkBudget)
    (hdirections : ∀ s ∈ segments, ¬isDirection s) (hplain : ∀ s ∈ segments.tail, IsPlain s)
    (h' : Route top' budget place segments (.error .nameTooLong)) :
    Route top budget place segments (.error .nameTooLong) := by
  obtain ⟨o, ho⟩ := exists_route top budget place segments
  by_cases hmissing : o = .error .notFound
  · subst hmissing
    exact absurd rfl
      (ne_nameTooLong_of_notFound hgrew hlinks hreal hbudget hdirections hplain ho h')
  · have hplace : (top.at? place).isSome := by
      obtain ⟨-, e, he, -⟩ := hreal
      rw [he]
      rfl
    rw [h'.unique (ho.grow hgrew hplace hmissing)]
    exact ho

end Route

end Preflight
