import Mathlib.Data.List.Forall2
import Preflight.Proofs.FileTree.PathText
import Preflight.Proofs.Log.Results
import Preflight.Text.Glob

/-!
# What a wildcard pattern accepts

A pattern that is made of two accepts what is made of two texts, one for each. So a pattern with
slashes accepts what can be cut at slashes into as many parts as it has segments, part by part. A
part may hold further slashes, because a star, a question mark and most sets take them; only where
no wildcard does are the parts the segments of the text.

## Main definitions

* `Glob.segments`: the pieces of a pattern between its slashes.
* `Glob.FollowsSegments`: a text follows a pattern segment by segment.
* `Glob.setsWithoutSlash`: no bracketed set of a pattern holds a slash.

## Main results

* `Glob.accepts_append_iff`: what a pattern made of two accepts.
* `Glob.globMatches_anyDepth_iff`: what a pattern after two stars and a slash accepts.
* `Glob.globMatches_iff_parts`: what a pattern with slashes accepts.
* `Glob.globMatches_iff_followsSegments`: the same where no wildcard takes a slash.
* `Glob.followsSegments_iff`: the segments of a pattern, read one by one.
-/

namespace Preflight.Text.Glob

/-! ### Patterns made of others -/

theorem accepts_nil_iff {cs : List Char} : accepts [] cs = true ↔ cs = [] := by
  rw [accepts, List.isEmpty_iff]

/-- A star accepts what the rest of the pattern accepts after any characters. -/
theorem accepts_many_cons_iff {ps : List Piece} {cs : List Char} :
    accepts (.many :: ps) cs = true ↔ ∃ a b, cs = a ++ b ∧ accepts ps b = true := by
  induction cs with
  | nil =>
    rw [accepts]
    constructor
    · intro h
      exact ⟨[], [], rfl, h⟩
    · rintro ⟨a, b, hab, h⟩
      obtain ⟨rfl, rfl⟩ := List.append_eq_nil_iff.mp hab.symm
      exact h
  | cons c cs ih =>
    rw [accepts, Bool.or_eq_true, ih]
    constructor
    · rintro (h | ⟨a, b, rfl, h⟩)
      · exact ⟨[], c :: cs, rfl, h⟩
      · exact ⟨c :: a, b, rfl, h⟩
    · rintro ⟨a, b, hab, h⟩
      cases a with
      | nil =>
        obtain rfl : c :: cs = b := hab
        exact Or.inl h
      | cons d a =>
        obtain ⟨-, rfl⟩ := List.cons.inj hab
        exact Or.inr ⟨a, b, rfl, h⟩

/-- Any other piece takes one character. -/
theorem accepts_cons_iff {p : Piece} (hp : p ≠ .many) {ps : List Piece} {cs : List Char} :
    accepts (p :: ps) cs = true ↔
      ∃ c rest, cs = c :: rest ∧ p.takes c = true ∧ accepts ps rest = true := by
  cases cs with
  | nil => cases p <;> simp_all [accepts]
  | cons c cs => cases p <;> simp_all [accepts]

/-- **A pattern made of two accepts what is made of two texts**, one for each. -/
theorem accepts_append_iff {ps qs : List Piece} {cs : List Char} :
    accepts (ps ++ qs) cs = true ↔
      ∃ a b, cs = a ++ b ∧ accepts ps a = true ∧ accepts qs b = true := by
  induction ps generalizing cs with
  | nil => simp [accepts_nil_iff]
  | cons p ps ih =>
    rw [List.cons_append]
    by_cases hp : p = .many
    · subst hp
      simp only [accepts_many_cons_iff, ih]
      constructor
      · rintro ⟨x, -, rfl, a, b, rfl, ha, hb⟩
        exact ⟨x ++ a, b, (List.append_assoc ..).symm, ⟨x, a, rfl, ha⟩, hb⟩
      · rintro ⟨-, b, rfl, ⟨x, a, rfl, ha⟩, hb⟩
        exact ⟨x, a ++ b, List.append_assoc .., a, b, rfl, ha, hb⟩
    · simp only [accepts_cons_iff hp, ih]
      constructor
      · rintro ⟨c, -, rfl, hc, a, b, rfl, ha, hb⟩
        exact ⟨c :: a, b, rfl, ⟨c, a, rfl, hc, ha⟩, hb⟩
      · rintro ⟨-, b, rfl, ⟨c, a, rfl, hc, ha⟩, hb⟩
        exact ⟨c, a ++ b, rfl, hc, a, b, rfl, ha, hb⟩

theorem accepts_one_cons_iff {x : Char} {ps : List Piece} {cs : List Char} :
    accepts (.one x :: ps) cs = true ↔ ∃ rest, cs = x :: rest ∧ accepts ps rest = true := by
  rw [accepts_cons_iff (by simp)]
  constructor
  · rintro ⟨c, rest, rfl, hc, h⟩
    obtain rfl : x = c := beq_iff_eq.mp hc
    exact ⟨rest, rfl, h⟩
  · rintro ⟨rest, rfl, h⟩
    exact ⟨x, rest, rfl, beq_iff_eq.mpr rfl, h⟩

/-- Patterns with a character between them accept texts with that character between them. -/
theorem accepts_intercalate_iff {x : Char} {pss : List (List Piece)} (hne : pss ≠ [])
    {cs : List Char} :
    accepts ([Piece.one x].intercalate pss) cs = true ↔
      ∃ parts, cs = [x].intercalate parts ∧
        List.Forall₂ (fun ps part => accepts ps part = true) pss parts := by
  induction pss generalizing cs with
  | nil => exact absurd rfl hne
  | cons ps rest ih =>
    cases rest with
    | nil => simp [List.forall₂_cons_left_iff, List.forall₂_nil_left_iff]
    | cons qs more =>
      rw [List.intercalate_cons_cons, List.append_assoc, accepts_append_iff]
      simp only [List.singleton_append, accepts_one_cons_iff, ih (List.cons_ne_nil qs more)]
      constructor
      · rintro ⟨a, -, rfl, ha, -, rfl, parts, rfl, hparts⟩
        obtain ⟨b, others, -, -, rfl⟩ := List.forall₂_cons_left_iff.mp hparts
        refine ⟨a :: b :: others, ?_, .cons ha hparts⟩
        rw [List.intercalate_cons_cons, List.append_assoc, List.singleton_append]
      · rintro ⟨parts, rfl, hparts⟩
        obtain ⟨a, after, ha, hafter, rfl⟩ := List.forall₂_cons_left_iff.mp hparts
        obtain ⟨b, others, hb, hothers, rfl⟩ := List.forall₂_cons_left_iff.mp hafter
        refine ⟨a, x :: [x].intercalate (b :: others), ?_, ha, _, rfl, _, rfl, .cons hb hothers⟩
        rw [List.intercalate_cons_cons, List.append_assoc, List.singleton_append]

/-- **A pattern after two stars and a slash** accepts what has a part that follows it after some
slash. Before that slash any text may stand, but the slash has to be there. -/
theorem globMatches_anyDepth_iff {pattern text : List Char} :
    globMatches ("**/".toList ++ pattern) text = true ↔
      ∃ front part, text = front ++ '/' :: part ∧ globMatches pattern part = true := by
  have hparse : parse ("**/".toList ++ pattern) =
      .many :: .many :: .one '/' :: parse pattern := by
    rw [show "**/".toList ++ pattern = '*' :: '*' :: '/' :: pattern from rfl, parse, parse, parse]
      <;> simp
  simp only [globMatches, hparse, accepts_many_cons_iff, accepts_one_cons_iff]
  constructor
  · rintro ⟨a, -, rfl, b, -, rfl, part, rfl, hpart⟩
    exact ⟨a ++ b, part, (List.append_assoc ..).symm, hpart⟩
  · rintro ⟨front, part, rfl, hpart⟩
    exact ⟨front, '/' :: part, rfl, [], '/' :: part, rfl, part, rfl, hpart⟩

/-! ### Bracketed sets -/

theorem openLength_append {a : List Char} (h : 2 ≤ a.length) (b : List Char) :
    openLength (a ++ b) = openLength a := by
  match a, h with
  | c :: d :: rest, _ =>
    by_cases hc : c = '!'
    · simp [openLength, hc]
    · simp [openLength, hc]

theorem openLength_lt {cs : List Char} (h : ']' ∈ cs.drop (openLength cs)) :
    openLength cs < cs.length := by
  refine Nat.lt_of_not_le fun hle => ?_
  rw [List.drop_eq_nil_of_le hle] at h
  cases h

theorem bracketBody?_of_drop {cs w rest : List Char}
    (h : cs.drop (openLength cs) = w ++ ']' :: rest) (hw : ']' ∉ w) :
    bracketBody? cs = some (cs.take (openLength cs) ++ w, rest) := by
  have hpass : ∀ c ∈ w, decide (c ≠ ']') = true := fun c hc =>
    decide_eq_true fun heq => hw (heq ▸ hc)
  simp only [bracketBody?, h, List.takeWhile_append_of_pos hpass,
    List.dropWhile_append_of_pos hpass, ne_eq, not_true_eq_false, decide_false,
    Bool.false_eq_true, not_false_eq_true, List.takeWhile_cons_of_neg,
    List.dropWhile_cons_of_neg, List.append_nil]

theorem bracketBody?_of_notMem {cs : List Char} (h : ']' ∉ cs.drop (openLength cs)) :
    bracketBody? cs = none := by
  have hpass : ∀ c ∈ cs.drop (openLength cs), decide (c ≠ ']') = true := fun c hc =>
    decide_eq_true fun heq => h (heq ▸ hc)
  have hdrop : (cs.drop (openLength cs)).dropWhile (fun c => decide (c ≠ ']')) = [] := by
    rw [← List.append_nil (cs.drop _), List.dropWhile_append_of_pos hpass]
    rfl
  simp only [bracketBody?, hdrop]

/-- A bracket that is never closed is not closed by fewer characters. -/
theorem bracketBody?_eq_none_of_append {s t : List Char} (h : bracketBody? (s ++ t) = none) :
    bracketBody? s = none := by
  refine bracketBody?_of_notMem fun hmem => ?_
  obtain ⟨w, rest, hdrop, hw⟩ := List.eq_append_cons_of_mem hmem
  match s with
  | [] => simp at hmem
  | [c] =>
    -- a bracket in the place of the first member closes nothing
    obtain ⟨hopen, rfl⟩ : openLength [c] = 0 ∧ c = ']' := by
      cases hlength : openLength [c] with
      | zero => simpa [hlength, eq_comm] using hmem
      | succ n => simp [hlength] at hmem
    exact absurd hopen (by decide)
  | c :: d :: more =>
    have hopen := openLength_append (a := c :: d :: more) (by simp) t
    have hdrop' : ((c :: d :: more) ++ t).drop (openLength ((c :: d :: more) ++ t)) =
        w ++ ']' :: (rest ++ t) := by
      rw [hopen, List.drop_append_of_le_length (Nat.le_of_lt (openLength_lt hmem)), hdrop]
      simp
    rw [bracketBody?_of_drop hdrop' hw] at h
    cases h

/-- What stands between the brackets of a set is followed by the bracket that closes it, whatever
comes after that. -/
theorem bracketBody?_eq_some {cs body after : List Char}
    (h : bracketBody? cs = some (body, after)) :
    cs = body ++ ']' :: after ∧ ∀ t, bracketBody? (body ++ ']' :: t) = some (body, t) := by
  by_cases hmem : ']' ∈ cs.drop (openLength cs)
  · obtain ⟨w, rest, hdrop, hw⟩ := List.eq_append_cons_of_mem hmem
    rw [bracketBody?_of_drop hdrop hw] at h
    obtain ⟨rfl, rfl⟩ := Prod.mk.inj (Option.some.inj h)
    have hcs : cs = (cs.take (openLength cs) ++ w) ++ ']' :: rest := by
      rw [List.append_assoc, ← hdrop, List.take_append_drop]
    refine ⟨hcs, fun t => ?_⟩
    have hlength : (cs.take (openLength cs)).length = openLength cs :=
      List.length_take_of_le (Nat.le_of_lt (openLength_lt hmem))
    generalize cs.take (openLength cs) = front at *
    -- the body is not empty: a bracket in the first place closes nothing
    have hbody : 2 ≤ ((front ++ w) ++ [']']).length := by
      cases hfront : front ++ w with
      | nil =>
        rw [hfront, List.nil_append] at hcs
        obtain ⟨rfl, rfl⟩ := List.append_eq_nil_iff.mp hfront
        have hopen : openLength (']' :: rest) = 1 := rfl
        rw [← hcs, ← hlength] at hopen
        cases hopen
      | cons c more => simp
    have hopen : ∀ t, openLength ((front ++ w) ++ ']' :: t) = openLength cs := by
      intro t
      rw [hcs, List.append_cons _ _ t, List.append_cons _ _ rest, openLength_append hbody,
        openLength_append hbody]
    have hdrop' : ((front ++ w) ++ ']' :: t).drop (openLength ((front ++ w) ++ ']' :: t)) =
        w ++ ']' :: t := by
      rw [hopen, ← hlength]
      simp
    rw [bracketBody?_of_drop hdrop' hw, hopen, ← hlength]
    simp
  · rw [bracketBody?_of_notMem hmem] at h
    cases h

/-! ### Segments -/

/-- The pieces of a pattern between its slashes. A slash in a bracketed set does not count. -/
def segments (pattern : List Char) : List (List Piece) := (parse pattern).splitOn (.one '/')

/-- A text follows a pattern segment by segment. -/
def FollowsSegments (pattern text : List Char) : Prop :=
  List.Forall₂ (fun ps part => accepts ps part = true) (segments pattern) (splitChar '/' text)

/-- No bracketed set of a pattern holds a slash. -/
def setsWithoutSlash : List Char → Bool
  | [] => true
  | '[' :: rest =>
    match h : bracketBody? rest with
    | some (body, after) =>
      have := bracketBody?_length h
      !body.contains '/' && setsWithoutSlash after
    | none => setsWithoutSlash rest
  | _ :: rest => setsWithoutSlash rest
termination_by cs => cs.length

/-- **What a pattern with slashes accepts**: what can be cut at slashes into as many parts as it has
segments, each of which follows its segment. A part may hold further slashes. -/
theorem globMatches_iff_parts {pattern text : List Char} :
    globMatches pattern text = true ↔
      ∃ parts, text = ['/'].intercalate parts ∧
        List.Forall₂ (fun ps part => accepts ps part = true) (segments pattern) parts := by
  have hsplit : [Piece.one '/'].intercalate (segments pattern) = parse pattern :=
    List.intercalate_splitOn ..
  rw [globMatches, ← hsplit]
  exact accepts_intercalate_iff (List.splitOn_ne_nil _ _)

/-- A text that follows a pattern segment by segment is accepted. -/
theorem globMatches_of_followsSegments {pattern text : List Char}
    (h : FollowsSegments pattern text) : globMatches pattern text = true := by
  refine globMatches_iff_parts.mpr ⟨_, ?_, h⟩
  rw [splitChar_eq_splitOn, List.intercalate_splitOn]

/-- Where no piece takes a character, it stands in nothing they accept. -/
theorem notMem_of_accepts {x : Char} {ps : List Piece} (hps : ∀ p ∈ ps, p.takes x = false)
    {cs : List Char} (h : accepts ps cs = true) : x ∉ cs := by
  induction ps generalizing cs with
  | nil => simp [accepts_nil_iff.mp h]
  | cons p ps ih =>
    obtain ⟨hp, hps⟩ := List.forall_mem_cons.mp hps
    have hmany : p ≠ .many := by
      rintro rfl
      cases hp
    obtain ⟨c, rest, rfl, hc, hrest⟩ := (accepts_cons_iff hmany).mp h
    intro hmem
    rcases List.mem_cons.mp hmem with rfl | hmem
    · rw [hp] at hc
      cases hc
    · exact ih hps hrest hmem

/-- **Where no wildcard takes a slash**, a pattern accepts what follows it segment by segment. -/
theorem globMatches_iff_followsSegments {pattern text : List Char}
    (h : ∀ p ∈ parse pattern, p.takes '/' = true → p = .one '/') :
    globMatches pattern text = true ↔ FollowsSegments pattern text := by
  refine ⟨fun hmatch => ?_, globMatches_of_followsSegments⟩
  obtain ⟨parts, rfl, hparts⟩ := globMatches_iff_parts.mp hmatch
  have hslash : ∀ part ∈ parts, '/' ∉ part := by
    intro part hpart
    obtain ⟨ps, hps, haccepts⟩ := exists_mem_of_forall₂ hparts hpart
    refine notMem_of_accepts (fun p hp => ?_) haccepts
    obtain ⟨hpart, hnotMem⟩ := sublist_of_mem_splitOn hps
    refine Bool.eq_false_iff.mpr fun htakes => hnotMem ?_
    exact h p (hpart.mem hp) htakes ▸ hp
  have hne : parts ≠ [] := by
    rintro rfl
    exact List.splitOn_ne_nil _ _ (List.forall₂_nil_right_iff.mp hparts)
  rw [FollowsSegments, splitChar_eq_splitOn, List.splitOn_intercalate '/' hslash hne]
  exact hparts

/-- Joining texts loses none of the places between them. -/
theorem length_le_length_splitChar (x : Char) (parts : List (List Char)) :
    parts.length ≤ (splitChar x ([x].intercalate parts)).length := by
  rw [splitChar_eq_splitOn]
  induction parts with
  | nil => exact Nat.zero_le _
  | cons part rest ih =>
    cases rest with
    | nil => exact List.length_pos_of_ne_nil (List.splitOn_ne_nil _ _)
    | cons next more =>
      have hpart := List.length_pos_of_ne_nil (List.splitOn_ne_nil x part)
      rw [List.intercalate_cons_cons, List.append_assoc, List.singleton_append,
        List.splitOn_append_cons_self, List.length_append, List.length_cons]
      omega

/-- What a pattern accepts has at least as many segments as the pattern. -/
theorem length_segments_le {pattern text : List Char} (h : globMatches pattern text = true) :
    (segments pattern).length ≤ (splitChar '/' text).length := by
  obtain ⟨parts, rfl, hparts⟩ := globMatches_iff_parts.mp h
  rw [hparts.length_eq]
  exact length_le_length_splitChar '/' parts

theorem splitOn_append_of_notMem {α : Type} [DecidableEq α] {x : α} {front : List α}
    (h : x ∉ front) (rest : List α) :
    (front ++ rest).splitOn x = (rest.splitOn x).modifyHead (front ++ ·) := by
  obtain ⟨first, more, hparts⟩ := List.exists_cons_of_ne_nil (List.splitOn_ne_nil x rest)
  induction front with
  | nil => simp [hparts]
  | cons y front ih =>
    obtain ⟨hy, hfront⟩ := List.ne_and_not_mem_of_not_mem_cons h
    rw [List.cons_append, List.splitOn_cons_eq_if_modifyHead, ih hfront, hparts, if_neg]
    · rfl
    · simpa using Ne.symm hy

/-- A character that opens no set is a piece of its own. -/
theorem exists_parse_cons {c : Char} (hset : c ≠ '[') (hslash : c ≠ '/') :
    ∃ p : Piece, p ≠ .one '/' ∧ ∀ s, parse (c :: s) = p :: parse s := by
  by_cases hstar : c = '*'
  · subst hstar
    exact ⟨.many, by decide, fun s => by rw [parse]⟩
  · by_cases hmark : c = '?'
    · subst hmark
      exact ⟨.any, by decide, fun s => by rw [parse]⟩
    · refine ⟨.one c, by simpa using hslash, fun s => ?_⟩
      rw [parse]
      · exact hstar
      · exact hmark
      · exact hset

/-- A piece at the start of a pattern is read as it is at the start of the first segment. -/
theorem segments_eq_map_parse_of_piece {front rest : List Char} {p : Piece}
    (hfront : '/' ∉ front) (hp : p ≠ .one '/')
    (hparse : ∀ s t, rest = s ++ t → parse (front ++ s) = p :: parse s)
    (hrest : segments rest = (rest.splitOn '/').map parse) :
    segments (front ++ rest) = ((front ++ rest).splitOn '/').map parse := by
  obtain ⟨first, more, hparts⟩ := List.exists_cons_of_ne_nil (List.splitOn_ne_nil '/' rest)
  have hfirst : parse (front ++ first) = p :: parse first := by
    have hjoin : ['/'].intercalate (rest.splitOn '/') = rest := List.intercalate_splitOn '/'
    rw [hparts] at hjoin
    cases more with
    | nil => exact hparse first [] (by simpa using hjoin.symm)
    | cons next others =>
      rw [List.intercalate_cons_cons, List.append_assoc] at hjoin
      exact hparse first _ hjoin.symm
  rw [segments, hparse rest [] (List.append_nil _).symm, List.splitOn_cons_eq_if_modifyHead,
    if_neg (by simpa using hp), ← segments, hrest, splitOn_append_of_notMem hfront, hparts]
  simp [hfirst]

/-- **The segments of a pattern are read one by one**, as long as no bracketed set holds a slash. -/
theorem segments_eq_map_parse {pattern : List Char} (h : setsWithoutSlash pattern = true) :
    segments pattern = (splitChar '/' pattern).map parse := by
  rw [splitChar_eq_splitOn]
  fun_induction setsWithoutSlash pattern with
  | case1 => simp [segments, parse]
  | case2 rest body after hbody _ ih =>
    obtain ⟨hslash, hafter⟩ := Bool.and_eq_true_iff.mp h
    obtain ⟨rfl, hany⟩ := bracketBody?_eq_some hbody
    have hfront : '/' ∉ '[' :: (body ++ [']']) := by simpa using hslash
    have hsplit : '[' :: (body ++ ']' :: after) = '[' :: (body ++ [']']) ++ after := by simp
    rw [hsplit]
    refine segments_eq_map_parse_of_piece (p := bracket body) hfront ?_ (fun s t _ => ?_)
      (ih hafter)
    · rw [bracket]
      split <;> simp
    · have hset : '[' :: (body ++ [']']) ++ s = '[' :: (body ++ ']' :: s) := by simp
      rw [hset, parse]
      split
      · next found hfound =>
        obtain ⟨rfl, rfl⟩ := Prod.mk.inj (Option.some.inj ((hany s).symm.trans hfound))
        rfl
      · next hnone => cases (hany s).symm.trans hnone
  | case3 rest hbody ih =>
    have hfront : '/' ∉ ['['] := by decide
    refine segments_eq_map_parse_of_piece (p := .one '[') hfront (by decide) (fun s t hs => ?_)
      (ih h)
    subst hs
    have hnone := bracketBody?_eq_none_of_append hbody
    rw [List.singleton_append, parse]
    split
    · next hsome => cases hnone.symm.trans hsome
    · rfl
  | case4 c rest hc ih =>
    by_cases hslash : c = '/'
    · subst hslash
      have hparse : parse ('/' :: rest) = .one '/' :: parse rest := by rw [parse] <;> simp
      rw [segments, hparse, List.splitOn_cons_eq_if_modifyHead, if_pos (by simp), ← segments, ih h,
        List.splitOn_cons_eq_if_modifyHead, if_pos (by simp)]
      simp [parse]
    · obtain ⟨p, hp, hparse⟩ := exists_parse_cons hc hslash
      have hfront : '/' ∉ [c] := by simpa using Ne.symm hslash
      exact segments_eq_map_parse_of_piece hfront hp (fun s t _ => hparse s) (ih h)

/-- A text follows a pattern segment by segment where each of its segments follows the segment of
the pattern in the same place. -/
theorem followsSegments_iff {pattern text : List Char} (h : setsWithoutSlash pattern = true) :
    FollowsSegments pattern text ↔
      List.Forall₂ (fun segment part => globMatches segment part = true)
        (splitChar '/' pattern) (splitChar '/' text) := by
  rw [FollowsSegments, segments_eq_map_parse h, List.forall₂_map_left_iff]
  rfl

end Preflight.Text.Glob
