import Preflight.Proofs.Log.Results
import Preflight.Proofs.Report.Sentences
import Preflight.Risk.Briefing

/-!
# The sentences of a briefing

The advice on a file is put together from fragments of one or two sentences, with numbers, names
and lists of names in them, and a report cuts it into its sentences again. The names may hold full
stops, as names of files do. If they hold no blanks and do not end in a full stop, the cuts are between
sentences and nowhere else: joined by blanks the sentences are the briefing, and each fragment has
its own.

## Main definitions

* `MadeOf`: fragments and the sentences they are made of.
* `PlainName`: a name that leaves the sentences whole it is mentioned in.

## Main results

* `madeOf_briefingFragments`: fragments are made of sentences.
* `sentences_fileBriefing`: the sentences of a briefing.
-/

namespace Preflight

open Preflight.Text

/-! ### Fragments -/

/-- Fragments are made of sentences, of so many more than there are fragments. -/
def MadeOf (fragments : List String) (more : Nat) : Prop :=
  ∃ groups : List (List String),
    List.Forall₂ (fun f g => " ".intercalate g = f ∧ g ≠ [] ∧ ∀ s ∈ g, IsSentence s) fragments
      groups ∧ groups.flatten.length = fragments.length + more

theorem madeOf_nil : MadeOf [] 0 := ⟨[], .nil, rfl⟩

theorem madeOf_sentence {s : String} (h : IsSentence s) : MadeOf [s] 0 :=
  ⟨[[s]], .cons ⟨String.intercalate_singleton, List.cons_ne_nil _ _, by simpa using h⟩ .nil, rfl⟩

theorem madeOf_pair {s t : String} (hs : IsSentence s) (ht : IsSentence t) :
    MadeOf [s ++ " " ++ t] 1 := by
  refine ⟨[[s, t]], .cons ⟨?_, List.cons_ne_nil _ _, ?_⟩ .nil, rfl⟩
  · rw [String.intercalate_cons_cons, String.intercalate_singleton]
  · exact List.forall_mem_cons.mpr ⟨hs, List.forall_mem_singleton.mpr ht⟩

theorem MadeOf.append {fragments fragments' : List String} {more more' : Nat}
    (h : MadeOf fragments more) (h' : MadeOf fragments' more') :
    MadeOf (fragments ++ fragments') (more + more') := by
  obtain ⟨groups, hgroups, hlength⟩ := h
  obtain ⟨groups', hgroups', hlength'⟩ := h'
  refine ⟨groups ++ groups', List.rel_append hgroups hgroups', ?_⟩
  rw [List.flatten_append, List.length_append, List.length_append, hlength, hlength']
  omega

/-- Joined by blanks, the sentences of all fragments are the fragments joined by blanks. -/
theorem intercalate_flatten {fragments : List String} {groups : List (List String)}
    (h : List.Forall₂ (fun f g => " ".intercalate g = f ∧ g ≠ [] ∧ ∀ s ∈ g, IsSentence s) fragments
      groups) : " ".intercalate groups.flatten = " ".intercalate fragments := by
  induction h with
  | nil => rfl
  | @cons f g fragments groups hfirst hrest ih =>
    obtain ⟨hjoined, hne, -⟩ := hfirst
    cases hrest with
    | nil => rw [List.flatten_singleton, hjoined, String.intercalate_singleton]
    | @cons f' g' fragments groups hsecond hrest =>
      have hflatten : (g' :: groups).flatten ≠ [] := by
        rw [List.flatten_cons]
        exact List.append_ne_nil_of_left_ne_nil hsecond.2.1 _
      rw [List.flatten_cons, String.intercalate_append_of_ne_nil hne hflatten, ih, hjoined,
        String.intercalate_cons_cons]

/-! ### Names -/

/-- A name leaves the sentences whole it is mentioned in: it is not empty, holds no blank, and does
not end in a full stop. -/
structure PlainName (name : String) : Prop where
  ne_empty : name ≠ ""
  blankless : name.toList.any isBlank = false
  noStop : name.toList.getLast? ≠ some '.'

instance (name : String) : Decidable (PlainName name) :=
  decidable_of_iff
    (name ≠ "" ∧ name.toList.any isBlank = false ∧ name.toList.getLast? ≠ some '.')
    ⟨fun h => ⟨h.1, h.2.1, h.2.2⟩, fun h => ⟨h.ne_empty, h.blankless, h.noStop⟩⟩

theorem PlainName.notMem {name : String} (h : PlainName name) : ' ' ∉ name.toList := fun hmem =>
  absurd (isBlank_eq_false_of_mem h.blankless hmem) (by decide)

theorem PlainName.phrase {name : String} (h : PlainName name) : Phrase name :=
  phrase_of_notMem (Or.inr h.notMem) h.noStop

theorem PlainName.endsInked {name : String} (h : PlainName name) : EndsInked name := by
  have hne : name.toList ≠ [] := fun hnil => h.ne_empty (String.toList_eq_nil_iff.mp hnil)
  exact ⟨_, _, (List.dropLast_append_getLast hne).symm,
    isBlank_eq_false_of_mem h.blankless (List.getLast_mem hne)⟩

theorem EndsInked.intercalate {sep : String} {texts : List String} (hne : texts ≠ [])
    (h : ∀ s ∈ texts, EndsInked s) : EndsInked (sep.intercalate texts) := by
  induction texts with
  | nil => exact absurd rfl hne
  | cons s texts ih =>
    obtain ⟨hs, hrest⟩ := List.forall_mem_cons.mp h
    cases texts with
    | nil => rwa [String.intercalate_singleton]
    | cons t texts =>
      rw [String.intercalate_cons_cons]
      exact (ih (List.cons_ne_nil _ _) hrest).append _

/-- A shortened list of names is a phrase that does not end in a blank. -/
theorem nameList_phrase {names : List String} (hne : names ≠ []) (h : ∀ n ∈ names, PlainName n) :
    Phrase (nameList names namedImporters) ∧ EndsInked (nameList names namedImporters) := by
  have hshown : ∀ n ∈ takeUpTo names namedImporters, PlainName n := fun n hn =>
    h n (List.mem_of_mem_take hn)
  have hshownNe : takeUpTo names namedImporters ≠ [] := by
    obtain ⟨n, rest, rfl⟩ := List.exists_cons_of_ne_nil hne
    exact List.cons_ne_nil _ _
  have hphrase : Phrase (", ".intercalate (takeUpTo names namedImporters)) :=
    Phrase.intercalate (by decide) fun n hn => (hshown n hn).phrase
  rw [nameList]
  split
  · exact ⟨((hphrase.append (by decide)).append (phrase_toString _)).append (by decide),
      EndsInked.append ⟨" mor".toList, 'e', by decide, by decide⟩ _⟩
  · exact ⟨hphrase, EndsInked.intercalate hshownNe fun n hn => (hshown n hn).endsInked⟩

/-- The names that a briefing may mention. -/
def RiskProfile.mentionedNames (p : RiskProfile) : List String :=
  p.circularDeps ++ p.downstreamUntested ++ p.globalMutations.map (·.name)

/-- A number with its word is a phrase between ends that are not blank. -/
theorem plural_phrase (count : Int) {word ending : String} (hword : Phrase word)
    (hending : Phrase ending) (hwordEnd : EndsInked word) (hend : EndsInked ending) :
    Phrase (plural count word ending) ∧ StartsInked (plural count word ending) ∧
      EndsInked (plural count word ending) := by
  have hnumber : StartsInked (toString count) := by
    obtain ⟨c, rest, hhead, hc⟩ := Json.exists_head_toString count
    refine ⟨c, rest, hhead, ?_⟩
    rcases hc with hdigit | rfl
    · exact isBlank_of_isDigit hdigit
    · decide
  have hphrase : Phrase (toString count ++ " " ++ word) :=
    ((phrase_toString count).append (by decide)).append hword
  rw [plural]
  split
  · rw [String.append_empty]
    exact ⟨hphrase, (hnumber.append _).append _, hwordEnd.append _⟩
  · exact ⟨hphrase.append hending, ((hnumber.append _).append _).append _, hend.append _⟩

theorem isSentence_append {front tail : String} (hfront : Phrase front)
    (hstart : StartsInked front) {body : String} (htail : tail = body ++ ".")
    (hbody : Phrase body) (hend : EndsInked body) : IsSentence (front ++ tail) :=
  ⟨front ++ body, by rw [htail, String.append_assoc], hfront.append hbody, hstart.append body,
    hend.append front⟩

/-- **Fragments are made of sentences**, the one on importers without tests of two. -/
theorem madeOf_briefingFragments {p : RiskProfile}
    (h : ∀ name ∈ p.mentionedNames, PlainName name) :
    MadeOf (briefingFragments p) (if p.downstreamUntested.isEmpty then 0 else 1) := by
  obtain ⟨hdeps, hmutations⟩ := List.forall_mem_append.mp h
  obtain ⟨hcircular, huntested⟩ := List.forall_mem_append.mp hdeps
  have hparts : MadeOf (briefingFragments p)
      (0 + (if p.downstreamUntested.isEmpty then 0 else 1) + 0 + 0 + 0 + 0) := by
    unfold briefingFragments
    dsimp only
    refine .append (.append (.append (.append (.append ?incoming ?untested) ?circular) ?mutations)
      ?missing) ?tests
    case incoming =>
      split
      · exact madeOf_nil
      · obtain ⟨hphrase, -, hend⟩ := @plural_phrase p.incomingDeps.length "file" "s" (by decide)
          (by decide) (by decide) (by decide)
        exact madeOf_sentence ⟨_, rfl, Phrase.append (by decide) hphrase,
          StartsInked.append (by decide) _, hend.append _⟩
    case untested =>
      split
      · exact madeOf_nil
      · next hne =>
        obtain ⟨hphrase, hend⟩ := nameList_phrase (by simpa using hne) huntested
        have hnamed : IsSentence
            ("untested importers: " ++ nameList p.downstreamUntested namedImporters ++ ".") :=
          ⟨_, rfl, Phrase.append (by decide) hphrase, StartsInked.append (by decide) _,
            hend.append _⟩
        have hsilent : IsSentence "changes may break silently." :=
          ⟨"changes may break silently", rfl, by decide, by decide, by decide⟩
        have hpair := madeOf_pair hnamed hsilent
        rwa [String.append_assoc, String.append_assoc] at hpair
    case circular =>
      split
      · next first rest heq =>
        have hfirst : PlainName first := hcircular first (heq ▸ List.mem_cons_self ..)
        exact madeOf_sentence (@isSentence_append _ _ (Phrase.append (by decide) hfirst.phrase)
          (StartsInked.append (by decide) _) " before touching this file" rfl (by decide)
          (by decide))
      · split
        · exact madeOf_sentence ⟨selfImportAdvice, rfl, by decide, by decide, by decide⟩
        · exact madeOf_nil
    case mutations =>
      split
      · exact madeOf_nil
      · have hnames : Phrase (mutationNames p.globalMutations) :=
          Phrase.intercalate (by decide) fun n hn => (hmutations n hn).phrase
        exact madeOf_sentence (@isSentence_append _ _ (Phrase.append (by decide) hnames)
          (StartsInked.append (by decide) _) ": shared state" rfl (by decide) (by decide))
    case missing =>
      split
      · exact madeOf_nil
      · obtain ⟨hphrase, hstart, -⟩ := @plural_phrase p.missingReturnTypes "function" "s"
          (by decide) (by decide) (by decide) (by decide)
        have hverb : Phrase (if p.missingReturnTypes = 1 then " lacks" else " lack") := by
          split <;> decide
        exact madeOf_sentence (@isSentence_append _ _ (hphrase.append hverb) (hstart.append _)
          " return types: type errors may be unpredictable" rfl (by decide) (by decide))
    case tests =>
      split
      · exact madeOf_sentence ⟨"write tests before editing", rfl, by decide, by decide, by decide⟩
      · exact madeOf_nil
  rwa [Nat.zero_add] at hparts

/-! ### Words -/

/-- A word that stands in two texts with a blank in between stands in one of them. -/
theorem infix_of_infix_append_blank {word front back : List Char} (hword : ' ' ∉ word)
    (h : word <:+: front ++ ' ' :: back) : word <:+: front ∨ word <:+: back := by
  induction front with
  | nil =>
    rcases List.infix_cons_iff.mp h with hprefix | hinfix
    · cases word with
      | nil => exact Or.inl List.nil_infix
      | cons c word =>
        obtain ⟨rfl, -⟩ := List.cons_prefix_cons.mp hprefix
        exact absurd (List.mem_cons_self ..) hword
    · exact Or.inr hinfix
  | cons c front ih =>
    rcases List.infix_cons_iff.mp h with hprefix | hinfix
    · left
      have hwhole : c :: front <+: c :: front ++ ' ' :: back := List.prefix_append _ _
      rcases List.prefix_or_prefix_of_prefix hprefix hwhole with hshort | ⟨more, rfl⟩
      · exact hshort.isInfix
      · cases more with
        | nil => simp
        | cons d more =>
          -- the word would go on with the blank
          have hblank := (List.prefix_append_right_inj (c :: front)).mp hprefix
          obtain ⟨rfl, -⟩ := List.cons_prefix_cons.mp hblank
          exact absurd (List.mem_append_right _ (List.mem_cons_self ..)) hword
    · exact (ih hinfix).imp_left fun h => List.infix_cons_iff.mpr (Or.inr h)

/-- A word that stands in texts joined by blanks stands in one of them. -/
theorem exists_infix_of_infix_intercalate {word : List Char} (hne : word ≠ []) (hword : ' ' ∉ word)
    {texts : List String} (h : word <:+: (" ".intercalate texts).toList) :
    ∃ s ∈ texts, word <:+: s.toList := by
  induction texts with
  | nil => exact absurd (List.infix_nil.mp h) hne
  | cons s texts ih =>
    cases texts with
    | nil =>
      rw [String.intercalate_singleton] at h
      exact ⟨s, List.mem_singleton_self s, h⟩
    | cons t texts =>
      rw [String.intercalate_cons_cons, String.append_assoc, String.toList_append,
        String.toList_append] at h
      rcases infix_of_infix_append_blank hword h with hfirst | hrest
      · exact ⟨s, List.mem_cons_self .., hfirst⟩
      · obtain ⟨u, hu, hinfix⟩ := ih hrest
        exact ⟨u, List.mem_cons_of_mem _ hu, hinfix⟩

/-! ### Briefings -/

/-- The fragments that a briefing is made of: at least one. -/
def shownFragments (p : RiskProfile) : List String :=
  if (briefingFragments p).isEmpty then [safeToEdit] else briefingFragments p

theorem fileBriefing_eq (p : RiskProfile) :
    fileBriefing p = " ".intercalate (shownFragments p) := by
  rw [fileBriefing, shownFragments]
  split
  · rw [String.intercalate_singleton]
  · rfl

theorem length_shownFragments (p : RiskProfile) :
    (shownFragments p).length = max 1 (briefingFragments p).length := by
  rw [shownFragments]
  split
  · next h =>
    rw [List.isEmpty_iff.mp h]
    rfl
  · next h =>
    have := List.length_pos_iff.mpr (mt List.isEmpty_iff.mpr h)
    omega

theorem madeOf_shownFragments {p : RiskProfile} (h : ∀ name ∈ p.mentionedNames, PlainName name) :
    MadeOf (shownFragments p) (if p.downstreamUntested.isEmpty then 0 else 1) := by
  rw [shownFragments]
  split
  · next hnone =>
    -- a briefing with nothing to say says nothing of importers without tests
    have huntested : p.downstreamUntested.isEmpty := by
      by_contra hne
      rw [List.isEmpty_iff] at hnone
      simp [briefingFragments, hne] at hnone
    rw [if_pos huntested]
    exact madeOf_sentence ⟨"safe to edit", rfl, by decide, by decide, by decide⟩
  · exact madeOf_briefingFragments h

/-- **The sentences of a briefing.** Joined by blanks they are the briefing. There are as many of
them as fragments that apply, at least one, and one more where importers without tests are named.
Each fragment has sentences of its own, one after another, and a name stands in a single one of
them. This takes names that are not empty, hold no blanks and do not end in a full stop. -/
theorem sentences_fileBriefing {p : RiskProfile} (h : ∀ name ∈ p.mentionedNames, PlainName name) :
    " ".intercalate (sentences (fileBriefing p)) = fileBriefing p ∧
    (sentences (fileBriefing p)).length =
      max 1 (briefingFragments p).length + (if p.downstreamUntested.isEmpty then 0 else 1) ∧
    (∃ groups : List (List String), groups.flatten = sentences (fileBriefing p) ∧
      List.Forall₂ (fun fragment group => " ".intercalate group = fragment ∧ group ≠ [])
        (shownFragments p) groups) ∧
    ∀ name ∈ p.mentionedNames, name.toList <:+: (fileBriefing p).toList →
      ∃ s ∈ sentences (fileBriefing p), name.toList <:+: s.toList := by
  obtain ⟨groups, hgroups, hlength⟩ := madeOf_shownFragments h
  have hjoined := intercalate_flatten hgroups
  have hne : groups.flatten ≠ [] := by
    rw [← List.length_pos_iff, hlength, length_shownFragments]
    omega
  have hall : ∀ s ∈ groups.flatten, IsSentence s := by
    intro s hs
    obtain ⟨g, hg, hsg⟩ := List.mem_flatten.mp hs
    obtain ⟨-, -, -, -, hsentences⟩ := exists_mem_of_forall₂ hgroups hg
    exact hsentences s hsg
  have hsentences : sentences (fileBriefing p) = groups.flatten := by
    rw [fileBriefing_eq, ← hjoined, sentences_intercalate hne hall]
  have hbriefing : " ".intercalate (sentences (fileBriefing p)) = fileBriefing p := by
    rw [hsentences, hjoined, fileBriefing_eq]
  refine ⟨hbriefing, ?_, ⟨groups, hsentences.symm, ?_⟩, fun name hname hmentioned => ?_⟩
  · rw [hsentences, hlength, length_shownFragments]
  · exact hgroups.imp fun _ _ hgroup => ⟨hgroup.1, hgroup.2.1⟩
  · have hplain := h name hname
    rw [← hbriefing] at hmentioned
    exact exists_infix_of_infix_intercalate
      (fun hnil => hplain.ne_empty (String.toList_eq_nil_iff.mp hnil)) hplain.notMem hmentioned

/-- A file with all there is to say about it: seven sentences in six fragments. -/
theorem sentences_fileBriefing_shared :
    let shared : RiskProfile :=
      { file := "src/core.ts", level := .high, circularDeps := ["src/loop.ts"],
        incomingDeps := ["a.ts", "b.ts", "c.ts", "d.ts", "e.ts", "f.ts"],
        downstreamUntested := ["a.ts", "b.ts", "c.ts", "d.ts"],
        globalMutations := [⟨"counter", 3⟩], missingReturnTypes := 1 }
    (∀ name ∈ shared.mentionedNames, PlainName name) ∧
      " ".intercalate (sentences (fileBriefing shared)) = fileBriefing shared ∧
      (sentences (fileBriefing shared)).length = 7 := by
  intro shared
  have hplain : ∀ name ∈ shared.mentionedNames, PlainName name := by decide
  obtain ⟨hjoined, hlength, -⟩ := sentences_fileBriefing hplain
  exact ⟨hplain, hjoined, hlength⟩

end Preflight
