import Mathlib.Data.List.Chain
import Preflight.Proofs.Report.Color

/-!
# Sentences are found again

A report cuts a text into its sentences by looking for full stops with a blank behind them, takes
the blanks off the ends of the parts, and gives each part its full stop back. A sentence in which no
full stop has a blank behind it, between ends that are not blank, comes out as it went in, and so do
several of them joined by blanks.

## Main definitions

* `Phrase`: a text that can stand anywhere in a sentence but at its end.
* `IsSentence`: a text that is cut nowhere and kept as it is.

## Main results

* `Phrase.append`, `Phrase.intercalate`: phrases put together.
* `sentences_intercalate`: sentences joined by blanks are found again.
-/

namespace Preflight

open Preflight.Text

/-! ### Cuts -/

/-- No full stop has a blank behind it. -/
def Unbroken (cs : List Char) : Prop := cs.IsChain fun c d => c = '.' → d ≠ ' '

instance (cs : List Char) : Decidable (Unbroken cs) :=
  inferInstanceAs (Decidable (cs.IsChain fun c d => c = '.' → d ≠ ' '))

theorem splitSentences_cons {c : Char} {rest part : List Char} {more : List (List Char)}
    (h : c = '.' → rest.head? ≠ some ' ') (hrest : splitSentences rest = part :: more) :
    splitSentences (c :: rest) = (c :: part) :: more := by
  rw [splitSentences, hrest]
  rintro rest' rfl rfl
  exact h rfl rfl

/-- What is unbroken is not cut. -/
theorem splitSentences_of_unbroken {cs : List Char} (h : Unbroken cs) :
    splitSentences cs = [cs] := by
  induction cs with
  | nil => rfl
  | cons c rest ih =>
    obtain ⟨hnext, hrest⟩ := List.isChain_cons.mp h
    exact splitSentences_cons (fun hc hhead => hnext ' ' hhead hc rfl) (ih hrest)

/-- The first cut is behind the first sentence. -/
theorem splitSentences_append {cs : List Char} (h : Unbroken cs) (hlast : cs.getLast? ≠ some '.')
    (rest : List Char) :
    splitSentences (cs ++ '.' :: ' ' :: rest) = cs :: splitSentences rest := by
  induction cs with
  | nil => rfl
  | cons c cs ih =>
    obtain ⟨hnext, hrest⟩ := List.isChain_cons.mp h
    cases cs with
    | nil => exact splitSentences_cons (fun hc => absurd (congrArg some hc) hlast) (ih hrest nofun)
    | cons d cs =>
      rw [List.getLast?_cons_cons] at hlast
      exact splitSentences_cons (fun hc hhead => hnext ' ' hhead hc rfl) (ih hrest hlast)

/-! ### Phrases -/

/-- A text that may stand in a sentence: it is unbroken, and no full stop ends it. -/
structure Phrase (s : String) : Prop where
  unbroken : Unbroken s.toList
  noStop : s.toList.getLast? ≠ some '.'

instance (s : String) : Decidable (Phrase s) :=
  decidable_of_iff (Unbroken s.toList ∧ s.toList.getLast? ≠ some '.')
    ⟨fun h => ⟨h.1, h.2⟩, fun h => ⟨h.unbroken, h.noStop⟩⟩

theorem Phrase.append {s t : String} (hs : Phrase s) (ht : Phrase t) : Phrase (s ++ t) := by
  constructor
  · rw [String.toList_append]
    refine List.IsChain.append hs.unbroken ht.unbroken fun c hc d _ hstop => ?_
    exact absurd (hstop ▸ hc) hs.noStop
  · rw [String.toList_append, List.getLast?_append]
    cases hlast : t.toList.getLast? with
    | none => exact hs.noStop
    | some c =>
      rw [Option.some_or, ← hlast]
      exact ht.noStop

theorem Phrase.intercalate {sep : String} {texts : List String} (hsep : Phrase sep)
    (h : ∀ s ∈ texts, Phrase s) : Phrase (sep.intercalate texts) :=
  intercalate_of_append (by decide) (fun _ _ => Phrase.append) hsep h

/-- A text without full stops, or without blanks and no full stop at its end. -/
theorem phrase_of_notMem {s : String} (h : '.' ∉ s.toList ∨ ' ' ∉ s.toList)
    (hlast : s.toList.getLast? ≠ some '.') : Phrase s := by
  refine ⟨List.isChain_iff_forall_rel_of_append_cons_cons.mpr ?_, hlast⟩
  rintro c d front back heq rfl rfl
  rw [heq] at h
  simp at h

theorem phrase_toString (n : Int) : Phrase (toString n) := by
  have hstop : '.' ∉ (toString n).toList := notMem_toString (by decide) (by decide) n
  exact phrase_of_notMem (Or.inl hstop) fun hlast => hstop (List.mem_of_getLast? hlast)

/-! ### Sentences -/

/-- A text starts with a character that is not blank. -/
def StartsInked (s : String) : Prop := ∃ c rest, s.toList = c :: rest ∧ isBlank c = false

theorem StartsInked.append {s : String} (h : StartsInked s) (t : String) :
    StartsInked (s ++ t) := by
  obtain ⟨c, rest, hs, hc⟩ := h
  exact ⟨c, rest ++ t.toList, by rw [String.toList_append, hs, List.cons_append], hc⟩

instance (s : String) : Decidable (StartsInked s) :=
  decidable_of_iff (s.toList.head?.any fun c => !isBlank c) <| by
    rw [StartsInked]
    cases s.toList <;> simp

instance (s : String) : Decidable (EndsInked s) :=
  decidable_of_iff (s.toList.getLast?.any fun c => !isBlank c) <| by
    rw [EndsInked]
    cases s.toList using List.reverseRecOn <;> simp

/-- A text with no blanks at its ends has none to be removed. -/
theorem strip_toList {s : String} (hstart : StartsInked s) (hend : EndsInked s) :
    strip s.toList = s.toList := by
  obtain ⟨c, rest, hs, hc⟩ := hstart
  obtain ⟨front, d, hs', hd⟩ := hend
  have htrim : trimStart s.toList = s.toList := by
    rw [trimStart, hs, List.dropWhile_cons_of_neg (by rw [hc]; exact Bool.false_ne_true)]
  rw [strip, htrim, hs', trimEnd_append hd]
  rfl

/-- A text that is cut nowhere and kept as it is: a phrase between ends that are not blank, and a
full stop. -/
def IsSentence (s : String) : Prop :=
  ∃ body, s = body ++ "." ∧ Phrase body ∧ StartsInked body ∧ EndsInked body

/-- A sentence at the start is found. -/
theorem sentences_cons {s : String} (h : IsSentence s) (rest : String) :
    sentences (s ++ " " ++ rest) = s :: sentences rest := by
  obtain ⟨body, rfl, hphrase, hstart, hend⟩ := h
  have htext : (body ++ "." ++ " " ++ rest).toList = body.toList ++ '.' :: ' ' :: rest.toList := by
    simp only [String.toList_append, List.append_assoc]
    rfl
  have hne : body.toList.isEmpty = false := by
    obtain ⟨c, cs, hbody, -⟩ := hstart
    rw [hbody]
    rfl
  have hstop : String.ofList (body.toList ++ ['.']) = body ++ "." := by
    rw [← String.toList_inj, String.toList_ofList, String.toList_append]
    rfl
  rw [sentences, sentences, htext, splitSentences_append hphrase.unbroken hphrase.noStop,
    List.map_cons, strip_toList hstart hend, List.filter_cons_of_pos (by rw [hne]; rfl),
    List.map_cons, if_neg hphrase.noStop, hstop]

/-- A sentence alone is found. -/
theorem sentences_of_isSentence {s : String} (h : IsSentence s) : sentences s = [s] := by
  obtain ⟨body, rfl, hphrase, hstart, hend⟩ := h
  have hdot : EndsInked "." := ⟨[], '.', rfl, by decide⟩
  have htext : (body ++ ".").toList = body.toList ++ ['.'] := String.toList_append
  have hunbroken : Unbroken (body ++ ".").toList := by
    rw [htext]
    refine List.IsChain.append hphrase.unbroken (List.isChain_singleton _) fun c _ d hd _ => ?_
    obtain rfl : '.' = d := Option.some.inj hd
    decide
  have hlast : (body ++ ".").toList.getLast? = some '.' := by
    rw [htext, List.getLast?_concat]
  have hne : (body ++ ".").toList.isEmpty = false := by
    rw [htext]
    exact List.isEmpty_eq_false_iff.mpr
      (List.append_ne_nil_of_right_ne_nil _ (List.cons_ne_nil _ _))
  rw [sentences, splitSentences_of_unbroken hunbroken, List.map_singleton,
    strip_toList (hstart.append ".") (hdot.append body), List.filter_cons_of_pos (by rw [hne]; rfl),
    List.filter_nil, List.map_singleton, if_pos hlast, String.ofList_toList]

/-- **Sentences joined by blanks are found again.** -/
theorem sentences_intercalate {texts : List String} (hne : texts ≠ [])
    (h : ∀ s ∈ texts, IsSentence s) : sentences (" ".intercalate texts) = texts := by
  induction texts with
  | nil => exact absurd rfl hne
  | cons s texts ih =>
    obtain ⟨hs, hrest⟩ := List.forall_mem_cons.mp h
    cases texts with
    | nil => rw [String.intercalate_singleton, sentences_of_isSentence hs]
    | cons t texts =>
      rw [String.intercalate_cons_cons, sentences_cons hs, ih (List.cons_ne_nil _ _) hrest]

end Preflight
