import Preflight.Proofs.FileTree.Names

/-!
# Routes through a file tree

Following a path is a walk from directory to directory that ends at a place or gives up for one of
five reasons. A route is such a walk with the links it may still follow: one rule for each thing
that can happen at the next segment. Statements about where paths lead go by induction on routes.

## Main definitions

* `Entry.DirectoryAt`, `IsPlain`: what the next segment of a path needs.
* `Route`: where some segments lead, and how many links are left then.

## Main results

* `Route.follow_eq`, `exists_route`: following a path is going a route.
* `Route.append`, `Route.append_error`, `Route.append_cases`: routes in two parts.
* `Route.add_budget`: more links allowed, and the same end.
* `Route.straight`: a real place is reached without links.
-/

namespace Preflight

/-! ### Places -/

/-- An entry is a link. -/
def Entry.isLink : Entry → Bool
  | .link _ => true
  | _ => false

/-- There is a directory at a place. -/
def Entry.DirectoryAt (top : Entry) (place : Place) : Prop :=
  ∃ es, top.at? place = some (.directory es)

/-- A segment that is looked up in a directory: it says no direction and is not too long. -/
def IsPlain (s : String) : Prop := ¬isDirection s ∧ s.utf8ByteSize ≤ nameLimit

namespace Entry

variable {top e : Entry} {place : Place}

theorem at?_snoc {es : List (String × Entry)} (h : top.at? place = some (.directory es))
    (s : String) : top.at? (place ++ [s]) = es.lookup s := by
  rw [at?_append, h]
  change (es.lookup s).bind some = es.lookup s
  cases es.lookup s with
  | none => rfl
  | some e => rfl

/-- What has an entry below it is a directory. -/
theorem directoryAt_of_at?_append {s : String} {rest : Place}
    (h : top.at? (place ++ s :: rest) = some e) : top.DirectoryAt place := by
  rw [at?_append] at h
  obtain ⟨c, hc, hrest⟩ := Option.bind_eq_some_iff.mp h
  cases c with
  | file _ | link _ => cases hrest
  | directory es => exact ⟨es, hc⟩

theorem directoryAt_nil (h : top.DirectoryAt place) : top.DirectoryAt [] := by
  cases place with
  | nil => exact h
  | cons s rest =>
    obtain ⟨es, hes⟩ := h
    rw [← List.nil_append (s :: rest)] at hes
    exact directoryAt_of_at?_append hes

theorem directoryAt_dropLast (h : top.DirectoryAt place) : top.DirectoryAt place.dropLast := by
  rcases List.eq_nil_or_concat place with rfl | ⟨rest, s, rfl⟩
  · exact h
  · obtain ⟨es, hes⟩ := h
    rw [List.concat_eq_append, List.dropLast_concat]
    rw [List.concat_eq_append] at hes
    exact directoryAt_of_at?_append hes

/-- A place that is reached without links: it holds something else than a link, and all of its
segments are looked up. -/
def RealAt (top : Entry) (place : Place) : Prop :=
  (∀ s ∈ place, IsPlain s) ∧ ∃ e, top.at? place = some e ∧ e.isLink = false

theorem RealAt.of_directoryAt (hplain : ∀ s ∈ place, IsPlain s) (h : top.DirectoryAt place) :
    top.RealAt place := by
  obtain ⟨es, hes⟩ := h
  exact ⟨hplain, _, hes, rfl⟩

theorem realAt_nil (h : top.DirectoryAt place) : top.RealAt [] :=
  RealAt.of_directoryAt (by simp) (directoryAt_nil h)

/-- The path of a link starts at a place that is reached without links. -/
theorem RealAt.linkStart (h : top.RealAt place) (hdirectory : top.DirectoryAt place)
    (target : String) : top.RealAt (linkStart target place) := by
  rw [Preflight.linkStart]
  split
  · exact realAt_nil hdirectory
  · exact h

end Entry

/-! ### Routes -/

/-- Where some segments lead from a place, with a number of links that may be followed: to a place
with a number of links left, or nowhere. -/
inductive Route (top : Entry) : Nat → Place → List String → Except FileError (Place × Nat) → Prop
  | arrives {budget : Nat} {place : Place} : Route top budget place [] (.ok (place, budget))
  | noDirectory {budget : Nat} {place : Place} {s : String} {rest : List String}
      (hplace : ¬top.DirectoryAt place) :
      Route top budget place (s :: rest) (.error .notDirectory)
  | stays {budget : Nat} {place : Place} {s : String} {rest : List String}
      {o : Except FileError (Place × Nat)} (hplace : top.DirectoryAt place)
      (hs : s = "" ∨ s = ".") (h : Route top budget place rest o) :
      Route top budget place (s :: rest) o
  | goesUp {budget : Nat} {place : Place} {rest : List String}
      {o : Except FileError (Place × Nat)} (hplace : top.DirectoryAt place)
      (h : Route top budget place.dropLast rest o) : Route top budget place (".." :: rest) o
  | tooLong {budget : Nat} {place : Place} {s : String} {rest : List String}
      (hplace : top.DirectoryAt place) (hs : ¬isDirection s) (hlong : nameLimit < s.utf8ByteSize) :
      Route top budget place (s :: rest) (.error .nameTooLong)
  | missing {budget : Nat} {place : Place} {s : String} {rest : List String}
      (hplace : top.DirectoryAt place) (hs : IsPlain s) (hnone : top.at? (place ++ [s]) = none) :
      Route top budget place (s :: rest) (.error .notFound)
  | noLinksLeft {place : Place} {s : String} {rest : List String} {target : String}
      (hplace : top.DirectoryAt place) (hs : IsPlain s)
      (hlink : top.at? (place ++ [s]) = some (.link target)) :
      Route top 0 place (s :: rest) (.error .tooManyLinks)
  | followsLink {budget : Nat} {place : Place} {s : String} {rest : List String}
      {target : String} {o : Except FileError (Place × Nat)} (hplace : top.DirectoryAt place)
      (hs : IsPlain s) (hlink : top.at? (place ++ [s]) = some (.link target))
      (h : Route top budget (linkStart target place) (linkSegments target ++ rest) o) :
      Route top (budget + 1) place (s :: rest) o
  | goesDown {budget : Nat} {place : Place} {s : String} {rest : List String} {e : Entry}
      {o : Except FileError (Place × Nat)} (hplace : top.DirectoryAt place) (hs : IsPlain s)
      (he : top.at? (place ++ [s]) = some e) (hnoLink : e.isLink = false)
      (h : Route top budget (place ++ [s]) rest o) : Route top budget place (s :: rest) o

variable {top : Entry} {budget : Nat} {place : Place} {s : String} {segments rest : List String}
  {o : Except FileError (Place × Nat)}

/-! ### Routes and following -/

/-- What following does at a link, with a number of links that may still be followed. -/
def atLinkOf (top : Entry) : Nat → String → Place → List String → Except FileError Place
  | 0, _, _, _ => .error .tooManyLinks
  | budget + 1, target, place, rest =>
    follow top budget (linkStart target place) (linkSegments target ++ rest)

theorem follow_eq_followUpTo (top : Entry) (budget : Nat) :
    follow top budget = followUpTo top (atLinkOf top budget) := by
  cases budget with
  | zero => rfl
  | succ budget => rfl

/-- What following does in a directory at a segment that is looked up. -/
theorem followUpTo_plain {atLink : String → Place → List String → Except FileError Place}
    {es : List (String × Entry)} (hplace : top.at? place = some (.directory es))
    (hs : ¬isDirection s) (rest : List String) :
    followUpTo top atLink place (s :: rest) =
      if nameLimit < s.utf8ByteSize then .error .nameTooLong
      else match top.at? (place ++ [s]) with
        | none => .error .notFound
        | some (.link target) => atLink target place rest
        | some _ => followUpTo top atLink (place ++ [s]) rest := by
  obtain ⟨hempty, hdot, hdots⟩ : s ≠ "" ∧ s ≠ "." ∧ s ≠ ".." := by
    simpa only [isDirection, not_or] using hs
  rw [followUpTo, hplace, Entry.at?_snoc hplace]
  exact (if_neg (by simp [hempty, hdot])).trans (if_neg hdots)

/-- Following a path is going a route. -/
theorem Route.follow_eq (h : Route top budget place segments o) :
    follow top budget place segments = o.map Prod.fst := by
  induction h with
  | arrives => rw [follow_eq_followUpTo, followUpTo, Except.map]
  | noDirectory hplace =>
    rw [follow_eq_followUpTo, followUpTo]
    split
    · next es hes => exact absurd ⟨es, hes⟩ hplace
    · rfl
  | stays hplace hs h ih =>
    obtain ⟨es, hes⟩ := hplace
    rw [follow_eq_followUpTo, followUpTo, hes]
    dsimp only
    rw [if_pos (by simpa using hs), ← follow_eq_followUpTo, ih]
  | goesUp hplace h ih =>
    obtain ⟨es, hes⟩ := hplace
    rw [follow_eq_followUpTo, followUpTo, hes]
    dsimp only
    rw [if_neg (by decide), if_pos rfl, ← follow_eq_followUpTo, ih]
  | tooLong hplace hs hlong =>
    obtain ⟨es, hes⟩ := hplace
    rw [follow_eq_followUpTo, followUpTo_plain hes hs, if_pos hlong, Except.map]
  | missing hplace hs hnone =>
    obtain ⟨es, hes⟩ := hplace
    rw [follow_eq_followUpTo, followUpTo_plain hes hs.1, if_neg (Nat.not_lt.mpr hs.2), hnone,
      Except.map]
  | noLinksLeft hplace hs hlink =>
    obtain ⟨es, hes⟩ := hplace
    rw [follow_eq_followUpTo, followUpTo_plain hes hs.1, if_neg (Nat.not_lt.mpr hs.2), hlink,
      Except.map]
    rfl
  | followsLink hplace hs hlink h ih =>
    obtain ⟨es, hes⟩ := hplace
    rw [follow_eq_followUpTo, followUpTo_plain hes hs.1, if_neg (Nat.not_lt.mpr hs.2), hlink, ← ih]
    rfl
  | @goesDown _ _ _ _ e _ hplace hs he hnoLink h ih =>
    obtain ⟨es, hes⟩ := hplace
    rw [follow_eq_followUpTo, followUpTo_plain hes hs.1, if_neg (Nat.not_lt.mpr hs.2), he, ← ih,
      follow_eq_followUpTo]
    cases e with
    | file _ | directory _ => rfl
    | link _ => cases hnoLink

/-- There is a route for every path, if there is one wherever a link comes next. -/
theorem exists_route_of_links
    (hlinks : ∀ {place s rest target}, top.DirectoryAt place → IsPlain s →
      top.at? (place ++ [s]) = some (.link target) → ∃ o, Route top budget place (s :: rest) o)
    (place : Place) (segments : List String) : ∃ o, Route top budget place segments o := by
  induction segments generalizing place with
  | nil => exact ⟨_, .arrives⟩
  | cons s rest ih =>
    by_cases hplace : top.DirectoryAt place
    · by_cases hs : isDirection s
      · rcases or_assoc.mpr hs with hs | rfl
        · obtain ⟨o, ho⟩ := ih place
          exact ⟨o, .stays hplace hs ho⟩
        · obtain ⟨o, ho⟩ := ih place.dropLast
          exact ⟨o, .goesUp hplace ho⟩
      · by_cases hlong : nameLimit < s.utf8ByteSize
        · exact ⟨_, .tooLong hplace hs hlong⟩
        · have hplain : IsPlain s := ⟨hs, Nat.not_lt.mp hlong⟩
          cases hat : top.at? (place ++ [s]) with
          | none => exact ⟨_, .missing hplace hplain hat⟩
          | some e =>
            obtain ⟨o, ho⟩ := ih (place ++ [s])
            cases e with
            | link target => exact hlinks hplace hplain hat
            | file content => exact ⟨o, .goesDown hplace hplain hat rfl ho⟩
            | directory es => exact ⟨o, .goesDown hplace hplain hat rfl ho⟩
    · exact ⟨_, .noDirectory hplace⟩

/-- There is a route for every path. -/
theorem exists_route (top : Entry) (budget : Nat) (place : Place) (segments : List String) :
    ∃ o, Route top budget place segments o := by
  induction budget generalizing place segments with
  | zero =>
    refine exists_route_of_links (fun hplace hs hlink => ?_) place segments
    exact ⟨_, .noLinksLeft hplace hs hlink⟩
  | succ budget ih =>
    refine exists_route_of_links (fun hplace hs hlink => ?_) place segments
    obtain ⟨o, ho⟩ := ih _ _
    exact ⟨o, .followsLink hplace hs hlink ho⟩

/-- A path leads to a place on a route with some number of links left. -/
theorem exists_route_of_follow {place' : Place}
    (h : follow top budget place segments = .ok place') :
    ∃ left, Route top budget place segments (.ok (place', left)) := by
  obtain ⟨o, ho⟩ := exists_route top budget place segments
  rw [ho.follow_eq] at h
  cases o with
  | error e => cases h
  | ok arrival =>
    obtain rfl : arrival.1 = place' := Except.ok.inj h
    exact ⟨arrival.2, ho⟩

theorem exists_route_of_follow_error {e : FileError}
    (h : follow top budget place segments = .error e) :
    Route top budget place segments (.error e) := by
  obtain ⟨o, ho⟩ := exists_route top budget place segments
  rw [ho.follow_eq] at h
  cases o with
  | error e' =>
    obtain rfl : e' = e := Except.error.inj h
    exact ho
  | ok arrival => cases h

namespace Route

/-- There is one route for every path. -/
theorem unique {o' : Except FileError (Place × Nat)} (h : Route top budget place segments o)
    (h' : Route top budget place segments o') : o = o' := by
  induction h generalizing o' with
  | arrives =>
    cases h'
    rfl
  | noDirectory hplace => cases h' with
    | noDirectory => rfl
    | _ => contradiction
  | stays hplace hs _ ih => cases h' with
    | stays _ _ h' => exact ih h'
    | _ => grind [IsPlain, isDirection, Entry.isLink]
  | goesUp hplace _ ih => cases h' with
    | goesUp _ h' => exact ih h'
    | _ => grind [IsPlain, isDirection, Entry.isLink]
  | tooLong hplace hs hlong => cases h' with
    | tooLong => rfl
    | _ => grind [IsPlain, isDirection, Entry.isLink]
  | missing hplace hs hnone => cases h' with
    | missing => rfl
    | _ => grind [IsPlain, isDirection, Entry.isLink]
  | noLinksLeft hplace hs hlink => cases h' with
    | noLinksLeft => rfl
    | _ => grind [IsPlain, isDirection, Entry.isLink]
  | followsLink hplace hs hlink _ ih => cases h' with
    | followsLink _ _ hlink' h' =>
      rw [hlink, Option.some.injEq, Entry.link.injEq] at hlink'
      subst hlink'
      exact ih h'
    | _ => grind [IsPlain, isDirection, Entry.isLink]
  | goesDown hplace hs he hnoLink _ ih => cases h' with
    | goesDown _ _ _ _ h' => exact ih h'
    | _ => grind [IsPlain, isDirection, Entry.isLink]

/-! ### Routes in two parts -/

/-- Where the first segments lead, the rest is followed from there. -/
theorem append {place' : Place} {left : Nat} {more : List String}
    (h : Route top budget place segments (.ok (place', left)))
    (hmore : Route top left place' more o) : Route top budget place (segments ++ more) o := by
  generalize hend : (Except.ok (place', left) : Except FileError (Place × Nat)) = o' at h
  induction h with
  | arrives =>
    cases hend
    exact hmore
  | noDirectory hplace | tooLong hplace | missing hplace | noLinksLeft hplace => cases hend
  | stays hplace hs _ ih => exact .stays hplace hs (ih hend)
  | goesUp hplace _ ih => exact .goesUp hplace (ih hend)
  | followsLink hplace hs hlink _ ih =>
    have hmore := ih hend
    rw [List.append_assoc] at hmore
    exact .followsLink hplace hs hlink hmore
  | goesDown hplace hs he hnoLink _ ih => exact .goesDown hplace hs he hnoLink (ih hend)

/-- Where the first segments lead nowhere, the rest does not matter. -/
theorem append_error {e : FileError} (h : Route top budget place segments (.error e))
    (more : List String) : Route top budget place (segments ++ more) (.error e) := by
  generalize hend : (Except.error e : Except FileError (Place × Nat)) = o' at h ⊢
  induction h with
  | arrives => cases hend
  | noDirectory hplace => exact .noDirectory hplace
  | tooLong hplace hs hlong => exact .tooLong hplace hs hlong
  | missing hplace hs hnone => exact .missing hplace hs hnone
  | noLinksLeft hplace hs hlink => exact .noLinksLeft hplace hs hlink
  | stays hplace hs _ ih => exact .stays hplace hs (ih hend)
  | goesUp hplace _ ih => exact .goesUp hplace (ih hend)
  | followsLink hplace hs hlink _ ih =>
    have hmore := ih hend
    rw [List.append_assoc] at hmore
    exact .followsLink hplace hs hlink hmore
  | goesDown hplace hs he hnoLink _ ih => exact .goesDown hplace hs he hnoLink (ih hend)

/-- A route through some segments and more is one through the first of them and, if these lead
anywhere, one through the rest from there. -/
theorem append_cases {more : List String} (h : Route top budget place (segments ++ more) o) :
    (∃ e, Route top budget place segments (.error e) ∧ o = .error e) ∨
      ∃ place' left, Route top budget place segments (.ok (place', left)) ∧
        Route top left place' more o := by
  obtain ⟨o', ho'⟩ := exists_route top budget place segments
  cases o' with
  | error e => exact Or.inl ⟨e, ho', h.unique (ho'.append_error more)⟩
  | ok arrival =>
    obtain ⟨o'', ho''⟩ := exists_route top arrival.2 arrival.1 more
    obtain rfl := h.unique (ho'.append ho'')
    exact Or.inr ⟨arrival.1, arrival.2, ho', ho''⟩

theorem of_append {place' : Place} {left : Nat} {more : List String}
    (h : Route top budget place segments (.ok (place', left)))
    (hall : Route top budget place (segments ++ more) o) : Route top left place' more o := by
  obtain ⟨o', ho'⟩ := exists_route top left place' more
  rw [hall.unique (h.append ho')]
  exact ho'

/-! ### Links left -/

theorem left_le {place' : Place} {left : Nat}
    (h : Route top budget place segments (.ok (place', left))) : left ≤ budget := by
  generalize hend : (Except.ok (place', left) : Except FileError (Place × Nat)) = o' at h
  induction h with
  | arrives =>
    cases hend
    exact Nat.le_refl _
  | noDirectory hplace | tooLong hplace | missing hplace | noLinksLeft hplace => cases hend
  | stays _ _ _ ih | goesUp _ _ ih | goesDown _ _ _ _ _ ih => exact ih hend
  | followsLink _ _ _ _ ih => exact Nat.le_succ_of_le (ih hend)

/-- Unless the links run out, more of them make no difference. -/
theorem add_budget (h : Route top budget place segments o) (ho : o ≠ .error .tooManyLinks)
    (more : Nat) :
    Route top (budget + more) place segments
      (o.map fun arrival => (arrival.1, arrival.2 + more)) := by
  induction h with
  | arrives => exact .arrives
  | noDirectory hplace => exact .noDirectory hplace
  | stays hplace hs _ ih => exact .stays hplace hs (ih ho)
  | goesUp hplace _ ih => exact .goesUp hplace (ih ho)
  | tooLong hplace hs hlong => exact .tooLong hplace hs hlong
  | missing hplace hs hnone => exact .missing hplace hs hnone
  | noLinksLeft => exact absurd rfl ho
  | followsLink hplace hs hlink _ ih =>
    rw [Nat.add_right_comm]
    exact .followsLink hplace hs hlink (ih ho)
  | goesDown hplace hs he hnoLink _ ih => exact .goesDown hplace hs he hnoLink (ih ho)

/-! ### Where routes lead -/

/-- A route that leads somewhere has no segment that is too long. -/
theorem plain_of_ok {arrival : Place × Nat} (h : Route top budget place segments (.ok arrival)) :
    ∀ s ∈ segments, isDirection s ∨ IsPlain s := by
  generalize hend : (Except.ok arrival : Except FileError (Place × Nat)) = o' at h
  induction h with
  | arrives => simp
  | noDirectory hplace | tooLong hplace | missing hplace | noLinksLeft hplace => cases hend
  | stays _ hs _ ih =>
    exact List.forall_mem_cons.mpr ⟨Or.inl (hs.imp_right Or.inl), ih hend⟩
  | goesUp _ _ ih => exact List.forall_mem_cons.mpr ⟨Or.inl (Or.inr (Or.inr rfl)), ih hend⟩
  | followsLink _ hs _ _ ih =>
    refine List.forall_mem_cons.mpr ⟨Or.inr hs, fun t ht => ?_⟩
    exact ih hend t (List.mem_append_right _ ht)
  | goesDown _ hs _ _ _ ih => exact List.forall_mem_cons.mpr ⟨Or.inr hs, ih hend⟩

/-- A route that leads anywhere else starts in a directory. -/
theorem directoryAt {arrival : Place × Nat} (h : Route top budget place segments (.ok arrival))
    (hne : segments ≠ []) : top.DirectoryAt place := by
  cases h with
  | arrives => exact absurd rfl hne
  | stays hplace | goesUp hplace | followsLink hplace | goesDown hplace => exact hplace

/-- Routes lead to places that are reached without links. -/
theorem realAt {place' : Place} {left : Nat}
    (h : Route top budget place segments (.ok (place', left))) (hplace : top.RealAt place) :
    top.RealAt place' := by
  generalize hend : (Except.ok (place', left) : Except FileError (Place × Nat)) = o' at h
  induction h with
  | arrives =>
    cases hend
    exact hplace
  | noDirectory hplace | tooLong hplace | missing hplace | noLinksLeft hplace => cases hend
  | stays _ _ _ ih => exact ih hplace hend
  | goesUp hdirectory _ ih =>
    refine ih (.of_directoryAt (fun t ht => ?_) (Entry.directoryAt_dropLast hdirectory)) hend
    exact hplace.1 t ((List.dropLast_sublist _).mem ht)
  | @followsLink _ _ _ _ target _ hdirectory _ _ _ ih =>
    exact ih (hplace.linkStart hdirectory target) hend
  | goesDown _ hs he hnoLink _ ih =>
    refine ih ⟨fun t ht => ?_, _, he, hnoLink⟩ hend
    rcases List.mem_append.mp ht with ht | ht
    · exact hplace.1 t ht
    · rw [List.mem_singleton.mp ht]
      exact hs

/-- What is there without links is reached without links. -/
theorem straight {e : Entry} (hplain : ∀ s ∈ segments, IsPlain s)
    (hat : top.at? (place ++ segments) = some e) (hnoLink : e.isLink = false) (budget : Nat) :
    Route top budget place segments (.ok (place ++ segments, budget)) := by
  induction segments generalizing place with
  | nil =>
    rw [List.append_nil]
    exact .arrives
  | cons s rest ih =>
    obtain ⟨hs, hrest⟩ := List.forall_mem_cons.mp hplain
    have hplace : top.DirectoryAt place := Entry.directoryAt_of_at?_append hat
    have hsplit : place ++ s :: rest = place ++ [s] ++ rest := by simp
    rw [hsplit] at hat ⊢
    have hnext : ∃ c, top.at? (place ++ [s]) = some c ∧ c.isLink = false := by
      cases rest with
      | nil => exact ⟨e, by simpa using hat, hnoLink⟩
      | cons t more =>
        obtain ⟨es, hes⟩ := Entry.directoryAt_of_at?_append hat
        exact ⟨_, hes, rfl⟩
    obtain ⟨c, hc, hcLink⟩ := hnext
    exact .goesDown hplace hs hc hcLink (ih hrest hat)

end Route

end Preflight
