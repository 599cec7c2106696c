import Preflight.FileTree.Ignore
import Preflight.Proofs.Text.Glob
import Preflight.Proofs.Text.LetterCase

/-!
# Rules with slashes

A rule with a slash in front or inside is matched with the whole path. The path follows it where it
can be cut at slashes into one part for each segment of the rule. As a wildcard may take slashes, a
part may be several segments of the path, so that a rule for one level of directories reaches
further down; without such a wildcard the rule is matched segment by segment.

## Main results

* `IgnoreRule.covers_iff_parts`: what a rule with a slash covers.
* `IgnoreRule.covers_below_top`: a rule for the top of a project covers a file below it.
-/

namespace Preflight.IgnoreRule

open Preflight.Text

variable {pattern : List Char} {negate : Bool} {rule : IgnoreRule}

/-- A rule that asks for no directory has a pattern. -/
theorem pattern_ne_nil (h : ofPattern? pattern negate = some rule)
    (hdirectory : rule.directoryOnly = false) : rule.pattern ≠ [] := by
  rw [ofPattern?] at h
  dsimp only at h
  split at h
  · cases h
  · next hne =>
    obtain rfl := Option.some.inj h
    simp only [decide_eq_false_iff_not] at hdirectory
    dsimp only
    simp only [if_neg hdirectory]
    split
    · next hhead =>
      -- a slash alone is one at the end
      intro htail
      obtain ⟨c, rest, hcs⟩ := List.exists_cons_of_ne_nil (by simpa using hne)
      rw [hcs] at hhead htail hdirectory
      obtain rfl := Option.some.inj hhead
      obtain rfl : rest = [] := htail
      exact hdirectory rfl
    · simpa using hne

/-- A rule with a slash in front or inside is matched with the whole path. -/
theorem covers_eq_globMatches (h : ofPattern? pattern negate = some rule)
    (hdirectory : rule.directoryOnly = false) (hslash : rule.anchored = true ∨ rule.hasSlash = true)
    (path : List Char) (isDirectory : Bool) :
    rule.covers path isDirectory = globMatches rule.pattern path := by
  have hpattern := pattern_ne_nil h hdirectory
  rw [covers, if_neg (by simp [hpattern, hdirectory]), if_pos (by simpa using hslash), hdirectory,
    Bool.false_and, Bool.or_false]

/-- **What a rule with a slash covers**: a path that can be cut at slashes into one part for each
segment of the rule, so that each part follows its segment. The path may have more segments than the
rule, where a wildcard takes slashes. Where none does, the rule covers what follows it segment by
segment. -/
theorem covers_iff_parts (h : ofPattern? pattern negate = some rule)
    (hdirectory : rule.directoryOnly = false) (hslash : rule.anchored = true ∨ rule.hasSlash = true)
    (path : List Char) (isDirectory : Bool) :
    (rule.covers path isDirectory = true ↔
      ∃ parts, path = ['/'].intercalate parts ∧
        List.Forall₂ (fun ps part => Glob.accepts ps part = true)
          (Glob.segments rule.pattern) parts) ∧
    (rule.covers path isDirectory = true →
      (Glob.segments rule.pattern).length ≤ (splitChar '/' path).length) ∧
    ((∀ p ∈ Glob.parse rule.pattern, p.takes '/' = true → p = .one '/') →
      (rule.covers path isDirectory = true ↔ Glob.FollowsSegments rule.pattern path)) ∧
    (Glob.setsWithoutSlash rule.pattern = true →
      (Glob.FollowsSegments rule.pattern path ↔
        List.Forall₂ (fun segment part => globMatches segment part = true)
          (splitChar '/' rule.pattern) (splitChar '/' path))) := by
  rw [covers_eq_globMatches h hdirectory hslash]
  exact ⟨Glob.globMatches_iff_parts, Glob.length_segments_le, Glob.globMatches_iff_followsSegments,
    Glob.followsSegments_iff⟩

/-- The rule for the script files at the top of a project. -/
def topScripts : IgnoreRule := ⟨"*.js".toList, false, true, false, false⟩

/-- **A rule for the top of a project covers a file below it**, which has more segments. -/
theorem covers_below_top :
    ofPattern? "/*.js".toList false = some topScripts ∧
      topScripts.directoryOnly = false ∧ topScripts.anchored = true ∧
      topScripts.covers "src/a.js".toList false = true ∧
      ¬Glob.FollowsSegments topScripts.pattern "src/a.js".toList := by
  have hrule : ofPattern? "/*.js".toList false = some topScripts := by decide
  have hsegments : Glob.segments topScripts.pattern =
      [[.many, .one '.', .one 'j', .one 's']] := by
    decide +kernel
  obtain ⟨hcovers, -⟩ := covers_iff_parts hrule rfl (Or.inl rfl) "src/a.js".toList false
  refine ⟨hrule, rfl, rfl, hcovers.mpr ⟨["src/a.js".toList], rfl, ?_⟩, fun h => ?_⟩
  · rw [hsegments]
    exact .cons (by decide +kernel) .nil
  · have hlength := h.length_eq
    rw [hsegments] at hlength
    exact absurd hlength (by decide)

/-! ### Last segments -/

/-- Before the last of some parts stands the character between them. -/
theorem exists_intercalate_concat {x : Char} {parents : List (List Char)} (hparents : parents ≠ [])
    (name : List Char) :
    ∃ front, [x].intercalate (parents ++ [name]) = front ++ x :: name := by
  induction parents with
  | nil => exact absurd rfl hparents
  | cons part rest ih =>
    rw [List.cons_append, List.intercalate_cons_of_ne_nil (by simp), List.append_assoc,
      List.singleton_append]
    by_cases hrest : rest = []
    · subst hrest
      exact ⟨part, by simp⟩
    · obtain ⟨front, hfront⟩ := ih hrest
      exact ⟨part ++ x :: front, by simp [hfront]⟩

/-- A text tells what comes after the last place where a character stands. -/
theorem eq_of_append_cons_eq {x : Char} {a b part name : List Char} (hpart : x ∉ part)
    (hname : x ∉ name) (h : a ++ x :: part = b ++ x :: name) : part = name := by
  have hleft : part <:+ name := (suffix_append_cons_iff hpart).mp
    (h ▸ (List.suffix_cons x part).trans (List.suffix_append a _))
  have hright : name <:+ part := (suffix_append_cons_iff hname).mp
    (h ▸ (List.suffix_cons x name).trans (List.suffix_append b _))
  exact hleft.sublist.antisymm hright.sublist

/-! ### Rules for any depth -/

section anyDepth

variable {text path name : List Char} {directoryOnly : Bool} {parents : List (List Char)}

/-- The rule of a text without a slash in front, apart from the one at its end that asks for a
directory. -/
theorem ofPattern?_of_strip_eq {body : List Char} (hne : body ≠ [])
    (hhead : body.head? ≠ some '/') (hlast : body.getLast? ≠ some '/')
    (htext : strip text = body ++ if directoryOnly then ['/'] else []) :
    ofPattern? text negate =
      some ⟨body, directoryOnly, false, negate, body.contains '/'⟩ := by
  have hdirectory : decide ((strip text).getLast? = some '/') = directoryOnly := by
    rw [htext]
    cases directoryOnly with
    | false => simpa using hlast
    | true => simp
  have hbody : (if (strip text).getLast? = some '/' then (strip text).dropLast else strip text) =
      body := by
    rw [htext]
    cases directoryOnly with
    | false => simp [hlast]
    | true => simp
  have hempty : ¬(strip text).isEmpty = true := by
    rw [htext]
    simp [hne]
  rw [ofPattern?]
  dsimp only
  rw [if_neg hempty, hdirectory, hbody]
  simp [hhead]

/-- The text of a rule for any depth: a pattern after two stars and a slash, and a slash at the end
where it asks for a directory. -/
def anyDepthText (pattern : List Char) (directoryOnly : Bool) : List Char :=
  ("**/".toList ++ pattern) ++ if directoryOnly then ['/'] else []

/-- The rule that such a text holds. -/
def anyDepth (pattern : List Char) (directoryOnly negate : Bool) : IgnoreRule :=
  ⟨"**/".toList ++ pattern, directoryOnly, false, negate, true⟩

theorem ofPattern?_anyDepth (hne : pattern ≠ []) (hslash : '/' ∉ pattern)
    (htext : strip text = anyDepthText pattern directoryOnly) :
    ofPattern? text negate = some (anyDepth pattern directoryOnly negate) := by
  have hlast : ("**/".toList ++ pattern).getLast? ≠ some '/' := by
    rw [List.getLast?_append_of_ne_nil _ hne]
    exact fun h => hslash (List.mem_of_getLast? h)
  rw [ofPattern?_of_strip_eq (by simp) (by simp) hlast htext, anyDepth]
  simp

/-- What a rule for any depth covers: what has a part that follows its pattern after some slash, and
what lies below a directory that is called as the rule is written. -/
theorem covers_anyDepth_iff {isDirectory : Bool} :
    (anyDepth pattern directoryOnly negate).covers path isDirectory = true ↔
      (directoryOnly = true → isDirectory = true) ∧
        ((∃ front part, path = front ++ '/' :: part ∧ globMatches pattern part = true) ∨
          directoryOnly = true ∧ anyDepthText pattern true <+: path) := by
  rw [← Glob.globMatches_anyDepth_iff, ← List.isPrefixOf_iff_prefix]
  cases directoryOnly <;> cases isDirectory <;> simp [covers, anyDepth, anyDepthText]

/-- What a rule for any depth covers has a slash. -/
theorem slash_mem_of_covers_anyDepth {isDirectory : Bool}
    (h : (anyDepth pattern directoryOnly negate).covers path isDirectory = true) : '/' ∈ path := by
  rcases (covers_anyDepth_iff.mp h).2 with ⟨front, part, rfl, -⟩ | ⟨-, hprefix⟩
  · exact List.mem_append_right _ (List.mem_cons_self ..)
  · exact hprefix.mem (by simp [anyDepthText])

/-- **What a rule for any depth covers**, by the segments of a path. At the top of a project it
covers nothing. Below the top it covers what has a last segment that follows its pattern; unless a
wildcard takes slashes, it covers nothing else but what lies below a directory called as the rule is
written. -/
theorem covers_anyDepth (hne : pattern ≠ []) (hslash : '/' ∉ pattern)
    (htext : strip text = anyDepthText pattern directoryOnly)
    (hpath : splitChar '/' path = parents ++ [name]) (negate isDirectory : Bool) :
    ∃ rule, ofPattern? text negate = some rule ∧
      (rule.covers path isDirectory = true ↔
        (directoryOnly = true → isDirectory = true) ∧
          ((∃ front part, path = front ++ '/' :: part ∧ globMatches pattern part = true) ∨
            directoryOnly = true ∧ anyDepthText pattern true <+: path)) ∧
      (parents = [] → rule.covers path isDirectory = false) ∧
      (parents ≠ [] → globMatches pattern name = true →
        (directoryOnly = true → isDirectory = true) → rule.covers path isDirectory = true) ∧
      ((∀ p ∈ Glob.parse pattern, p.takes '/' = false) → ¬anyDepthText pattern true <+: path →
        (rule.covers path isDirectory = true ↔
          parents ≠ [] ∧ globMatches pattern name = true ∧
            (directoryOnly = true → isDirectory = true))) := by
  rw [splitChar_eq_splitOn] at hpath
  have hname : '/' ∉ name := (sublist_of_mem_splitOn (hpath ▸ List.mem_concat_self)).2
  have hjoin : path = ['/'].intercalate (parents ++ [name]) := by
    rw [← hpath, List.intercalate_splitOn]
  have hiff : (anyDepth pattern directoryOnly negate).covers path isDirectory = true ↔
      (directoryOnly = true → isDirectory = true) ∧
        ((∃ front part, path = front ++ '/' :: part ∧ globMatches pattern part = true) ∨
          directoryOnly = true ∧ anyDepthText pattern true <+: path) := covers_anyDepth_iff
  have htop : parents = [] →
      (anyDepth pattern directoryOnly negate).covers path isDirectory = false := by
    rintro rfl
    refine Bool.eq_false_iff.mpr fun hcovers => hname ?_
    simpa [hjoin] using slash_mem_of_covers_anyDepth hcovers
  have hbelow : parents ≠ [] → globMatches pattern name = true →
      (directoryOnly = true → isDirectory = true) →
      (anyDepth pattern directoryOnly negate).covers path isDirectory = true := by
    intro hparents hmatch hdirectory
    obtain ⟨front, hfront⟩ := exists_intercalate_concat hparents name
    exact hiff.mpr ⟨hdirectory, Or.inl ⟨front, name, hjoin.trans hfront, hmatch⟩⟩
  refine ⟨_, ofPattern?_anyDepth hne hslash htext, hiff, htop, hbelow, fun htakes hnot => ?_⟩
  constructor
  · intro hcovers
    have hparents : parents ≠ [] := fun hnil => by
      rw [htop hnil] at hcovers
      cases hcovers
    obtain ⟨hdirectory, ⟨front, part, hpart, hmatch⟩ | ⟨-, hprefix⟩⟩ := hiff.mp hcovers
    · -- the part that follows the pattern holds no slash, so it is the last segment
      obtain ⟨before, hbefore⟩ := exists_intercalate_concat hparents name
      obtain rfl := eq_of_append_cons_eq (Glob.notMem_of_accepts htakes hmatch) hname
        (hpart.symm.trans (hjoin.trans hbefore))
      exact ⟨hparents, hmatch, hdirectory⟩
    · exact absurd hprefix hnot
  · rintro ⟨hparents, hmatch, hdirectory⟩
    exact hbelow hparents hmatch hdirectory

/-- **A rule for any depth misses the top**: `**/generated/` covers such a directory below another
one, and not the one at the top of a project, whose name follows the pattern. -/
theorem anyDepth_misses_top :
    "generated".toList ≠ [] ∧ '/' ∉ "generated".toList ∧
      strip "**/generated/".toList = anyDepthText "generated".toList true ∧
      splitChar '/' "generated".toList = [] ++ ["generated".toList] ∧
      globMatches "generated".toList "generated".toList = true ∧
      ∃ rule, ofPattern? "**/generated/".toList false = some rule ∧
        rule.covers "generated".toList true = false ∧
        rule.covers "src/generated".toList true = true := by
  have hne : "generated".toList ≠ [] := by decide
  have hslash : '/' ∉ "generated".toList := by decide
  have htext : strip "**/generated/".toList = anyDepthText "generated".toList true := by decide
  have hmatch : globMatches "generated".toList "generated".toList = true := by decide +kernel
  have hname : splitChar '/' "generated".toList = [] ++ ["generated".toList] := by decide
  have hbelow : splitChar '/' "src/generated".toList = ["src".toList] ++ ["generated".toList] := by
    decide
  obtain ⟨rule, hrule, -, htop, -⟩ := covers_anyDepth hne hslash htext hname false true
  obtain ⟨rule', hrule', -, -, hcovers, -⟩ := covers_anyDepth hne hslash htext hbelow false true
  obtain rfl := Option.some.inj (hrule.symm.trans hrule')
  exact ⟨hne, hslash, htext, hname, hmatch, rule, hrule, htop rfl,
    hcovers (by decide) hmatch fun _ => rfl⟩

end anyDepth

end Preflight.IgnoreRule
