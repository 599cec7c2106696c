import Mathlib.Data.List.Perm.Subperm
import Preflight.Proofs.Graph.Lookup
import Preflight.Proofs.Log.Results
import Preflight.Proofs.Risk.Level
import Preflight.Risk.Propagation

/-!
# Final profiles

The second pass over a file puts a new profile in the place of the first. What the import graph says
about the file is carried over, the importers that have no tests are found out, and the level and
the advice are worked out again from all of this. So nothing in a final profile is left from before,
a level is only ever raised, and a third pass would change nothing.

## Main definitions

* `RiskProfile.Consistent`: the parts of a profile agree.

## Main results

* `fileBriefing_eq_safeToEdit_iff`: when nothing speaks against a change.
* `exists_withoutTest_iff`, `withoutTest_ok`: the importers that have no tests.
* `finalProfile_consistent`: there is a final profile when all importers can be looked at, and it
  agrees with itself.
-/

namespace Preflight

variable {p : RiskProfile}

/-! ### Advice -/

/-- There is nothing to say about a file when all that is known of it is empty. -/
theorem briefingFragments_eq_nil_iff :
    briefingFragments p = [] ↔ p.incomingDeps = [] ∧ p.downstreamUntested = [] ∧
      p.circularDeps = [] ∧ p.inCycle = false ∧ p.globalMutations = [] ∧
      p.missingReturnTypes = 0 := by
  simp only [briefingFragments, List.append_eq_nil_iff, ite_eq_left_iff, ite_eq_right_iff,
    List.cons_ne_nil, imp_false, Decidable.not_not, List.length_eq_zero_iff, List.isEmpty_iff,
    Bool.and_eq_true, decide_eq_true_eq]
  cases p.circularDeps with
  | cons first rest => simp
  | nil =>
    simp only [ite_eq_right_iff, List.cons_ne_nil, imp_false, Bool.not_eq_true, true_and]
    constructor
    · rintro ⟨⟨⟨⟨⟨hincoming, huntested⟩, hcycle⟩, hmutations⟩, hmissing⟩, -⟩
      exact ⟨hincoming, huntested, hcycle, hmutations, hmissing⟩
    · rintro ⟨hincoming, huntested, hcycle, hmutations, hmissing⟩
      refine ⟨⟨⟨⟨⟨hincoming, huntested⟩, hcycle⟩, hmutations⟩, hmissing⟩, fun h => ?_⟩
      -- tests are asked for first only where there are importers
      rw [hincoming] at h
      exact Nat.not_lt_zero _ h.1

/-- The words a fragment may close with. -/
def closingWords : List String :=
  ["file.", "files.", "silently.", "state.", "unpredictable.", "editing."]

theorem isSuffix_append {ending t : String} (h : ending.toList <:+ t.toList) (s : String) :
    ending.toList <:+ (s ++ t).toList := by
  rw [String.toList_append]
  exact h.trans (List.suffix_append _ _)

theorem exists_closingWord {fragment : String} (h : fragment ∈ briefingFragments p) :
    ∃ ending ∈ closingWords, ending.toList <:+ fragment.toList := by
  simp only [briefingFragments, List.mem_append, List.mem_ite_nil_left, List.mem_ite_nil_right,
    List.mem_singleton] at h
  rcases h with ((((⟨-, rfl⟩ | ⟨-, rfl⟩) | hcircular) | ⟨-, rfl⟩) | ⟨-, rfl⟩) | ⟨-, rfl⟩
  · rw [plural]
    simp only [String.append_assoc]
    split
    · exact ⟨"file.", by decide,
        isSuffix_append (isSuffix_append (isSuffix_append (by decide) _) _) _⟩
    · exact ⟨"files.", by decide,
        isSuffix_append (isSuffix_append (isSuffix_append (by decide) _) _) _⟩
  · exact ⟨"silently.", by decide, isSuffix_append (by decide) _⟩
  · refine ⟨"file.", by decide, ?_⟩
    split at hcircular
    · rw [List.mem_singleton.mp hcircular]
      exact isSuffix_append (by decide) _
    · rw [List.mem_ite_nil_right, List.mem_singleton] at hcircular
      rw [hcircular.2]
      decide
  · exact ⟨"state.", by decide, isSuffix_append (by decide) _⟩
  · exact ⟨"unpredictable.", by decide, isSuffix_append (by decide) _⟩
  · exact ⟨"editing.", by decide, by decide⟩

/-- A text put together from others ends with the last of them. -/
theorem exists_isSuffix_intercalate (separator : String) {fragments : List String}
    (h : fragments ≠ []) :
    ∃ fragment ∈ fragments,
      fragment.toList <:+ (separator.intercalate fragments).toList := by
  induction fragments with
  | nil => exact absurd rfl h
  | cons first rest ih =>
    cases rest with
    | nil => exact ⟨first, List.mem_singleton_self first, by simp⟩
    | cons second rest =>
      obtain ⟨fragment, hmem, hsuffix⟩ := ih (List.cons_ne_nil second rest)
      refine ⟨fragment, List.mem_cons_of_mem first hmem, ?_⟩
      rw [String.intercalate_cons_cons]
      exact isSuffix_append hsuffix _

/-- **A file is said to be safe to edit** exactly when all that is known of it is empty. -/
theorem fileBriefing_eq_safeToEdit_iff :
    fileBriefing p = safeToEdit ↔ briefingFragments p = [] := by
  simp only [fileBriefing, List.isEmpty_iff, ite_eq_left_iff]
  constructor
  · intro h
    by_contra hne
    obtain ⟨fragment, hmem, hfragment⟩ := exists_isSuffix_intercalate " " hne
    obtain ⟨ending, hending, hcloses⟩ := exists_closingWord hmem
    have hsafe : ∀ ending ∈ closingWords, ¬ending.toList <:+ safeToEdit.toList := by decide
    exact hsafe ending hending (h hne ▸ hcloses.trans hfragment)
  · exact fun h hne => absurd h hne

/-- **Each cause of the highest level is spoken of.** -/
theorem briefingFragments_ne_nil_of_isHigh (h : p.evidence.isHigh = true) :
    briefingFragments p ≠ [] := by
  intro hnil
  obtain ⟨hincoming, -, hcircular, hcycle, hmutations, hmissing⟩ :=
    briefingFragments_eq_nil_iff.mp hnil
  simp [RiskEvidence.isHigh_iff, RiskProfile.evidence, hincoming, hcircular, hcycle, hmutations,
    hmissing] at h

/-! ### The importers that have no tests -/

section importers

variable {w : Workspace} {root : Path} {snapshot : List FileFacts}
  {importers untested : List FileId}

/-- The importers that have no tests can be found out when each of them can be looked at. -/
theorem exists_withoutTest_iff :
    (∃ untested, withoutTest w root snapshot importers = .ok untested) ↔
      ∀ id ∈ importers, ∃ tested, importerHasTest w root snapshot id = .ok tested := by
  induction importers with
  | nil => simp [withoutTest]
  | cons importer rest ih =>
    rw [List.forall_mem_cons, ← ih, withoutTest]
    constructor
    · rintro ⟨untested, h⟩
      obtain ⟨tested, htested, h⟩ := bind_eq_ok_iff.mp h
      obtain ⟨others, hothers, -⟩ := bind_eq_ok_iff.mp h
      exact ⟨⟨tested, htested⟩, others, hothers⟩
    · rintro ⟨⟨tested, htested⟩, others, hothers⟩
      exact ⟨_, bind_eq_ok_iff.mpr ⟨tested, htested, bind_eq_ok_iff.mpr ⟨others, hothers, rfl⟩⟩⟩

/-- What is found out are the importers that are known to have no tests, in the order given. -/
theorem withoutTest_ok (h : withoutTest w root snapshot importers = .ok untested) :
    untested.Sublist importers ∧
      ∀ id, id ∈ untested ↔ id ∈ importers ∧ importerHasTest w root snapshot id = .ok false := by
  induction importers generalizing untested with
  | nil =>
    cases h
    exact ⟨List.Sublist.refl [], fun id => by simp⟩
  | cons importer rest ih =>
    obtain ⟨tested, htested, h⟩ := bind_eq_ok_iff.mp h
    obtain ⟨others, hothers, h⟩ := bind_eq_ok_iff.mp h
    cases h
    obtain ⟨hsublist, hmem⟩ := ih hothers
    cases tested with
    | true =>
      refine ⟨hsublist.cons importer, fun id => ?_⟩
      rw [if_pos rfl, hmem, List.mem_cons, or_and_right]
      refine (or_iff_right ?_).symm
      rintro ⟨rfl, hnone⟩
      cases htested.symm.trans hnone
    | false =>
      refine ⟨hsublist.cons_cons importer, fun id => ?_⟩
      rw [if_neg Bool.false_ne_true, List.mem_cons, hmem, List.mem_cons, or_and_right]
      refine or_congr_left ⟨fun hid => ⟨hid, ?_⟩, And.left⟩
      rw [hid]
      exact htested

/-- Sorted importers without tests stay in the order they are found in. -/
theorem untestedImporters_of_pairwise (hsorted : importers.Pairwise (· < ·)) :
    untestedImporters w root snapshot importers = withoutTest w root snapshot importers := by
  rw [untestedImporters]
  cases h : withoutTest w root snapshot importers with
  | error e => rfl
  | ok untested =>
    have huntested := hsorted.sublist (withoutTest_ok h).1
    refine congrArg Except.ok (List.mergeSort_of_pairwise (huntested.imp fun {a b} hab => ?_))
    exact decide_eq_true (String.not_lt.mp (String.lt_asymm hab))

end importers

/-! ### The second pass -/

/-- The parts of a profile agree, for a file that stands for some ids and with a way to find out
whether an importer has tests. -/
structure RiskProfile.Consistent (p : RiskProfile) (own : List FileId)
    (hasTest : FileId → Except FileFault Bool) : Prop where
  incoming_sorted : p.incomingDeps.Pairwise (· < ·)
  incoming_other : ∀ id ∈ p.incomingDeps, id ∉ own
  circular_sorted : p.circularDeps.Pairwise (· < ·)
  circular_other : ∀ id ∈ p.circularDeps, id ∉ own
  untested_sublist : p.downstreamUntested.Sublist p.incomingDeps
  mem_untested_iff : ∀ id,
    id ∈ p.downstreamUntested ↔ id ∈ p.incomingDeps ∧ hasTest id = .ok false
  inCycle : p.circularDeps ≠ [] → p.inCycle = true
  level_eq : p.level = classifyRisk p.evidence
  briefing_eq : p.briefing = fileBriefing p
  briefing_ne : p.level = .high → p.briefing ≠ safeToEdit

theorem classifyRisk_eq_high_iff {e : RiskEvidence} :
    classifyRisk e = .high ↔ e.isHigh = true := by
  rw [classifyRisk]
  split
  · next h => exact iff_of_true rfl h
  · next h =>
    refine iff_of_false ?_ h
    split
    · exact RiskLevel.noConfusion
    · exact RiskLevel.noConfusion

section finalProfile

variable {cycles : List (List FileId)} {incoming : List (FileId × List FileId)}
  {nodes : List FileId} {g : Dependencies} {w : Workspace} {root : Path}
  {snapshot : List FileFacts} {facts : FileFacts} {untested : List FileId}

/-- A file with others in its cycles is part of one. -/
theorem inCycle_of_cycleMembers_ne_nil (hg : g = .of cycles incoming nodes) {id : FileId}
    (h : g.cycleMembers id ≠ []) : g.inCycle id = true := by
  subst hg
  obtain ⟨member, hmember⟩ := List.exists_mem_of_ne_nil _ h
  obtain ⟨-, target, htarget, c, hc, htargetc, -⟩ :=
    (Dependencies.mem_cycleMembers_of_iff cycles incoming nodes id member).mp hmember
  exact (Dependencies.inCycle_of_iff cycles incoming nodes id).mpr
    ⟨target, htarget, c, hc, htargetc⟩

/-- A final profile is made from the facts of a file, its place in the import graph and its
importers without tests. -/
theorem finalProfile_eq_ok_iff :
    finalProfile w root snapshot facts (provisionalProfile facts g) = .ok p ↔
      ∃ untested, withoutTest w root snapshot (g.importers facts.path) = .ok untested ∧
        profileWith facts (g.cycleMembers facts.path) (g.inCycle facts.path)
          (g.importers facts.path) untested = p := by
  have hsorted : (g.importers facts.path).Pairwise (· < ·) := sortedSet_pairwise _
  rw [← untestedImporters_of_pairwise hsorted]
  exact map_eq_ok_iff

/-- The parts of a profile agree once the importers without tests are in it. -/
theorem consistent_profileWith (hg : g = .of cycles incoming nodes)
    (h : withoutTest w root snapshot (g.importers facts.path) = .ok untested) :
    (profileWith facts (g.cycleMembers facts.path) (g.inCycle facts.path)
      (g.importers facts.path) untested).Consistent (g.resolve facts.path)
      (importerHasTest w root snapshot) where
  incoming_sorted := sortedSet_pairwise _
  incoming_other id hid := by
    subst hg
    exact ((Dependencies.mem_importers_of_iff cycles incoming nodes facts.path id).mp hid).1
  circular_sorted := sortedSet_pairwise _
  circular_other id hid := by
    subst hg
    exact ((Dependencies.mem_cycleMembers_of_iff cycles incoming nodes facts.path id).mp hid).1
  untested_sublist := (withoutTest_ok h).1
  mem_untested_iff := (withoutTest_ok h).2
  inCycle := inCycle_of_cycleMembers_ne_nil hg
  level_eq := rfl
  briefing_eq := rfl
  briefing_ne hlevel hsafe :=
    briefingFragments_ne_nil_of_isHigh (classifyRisk_eq_high_iff.mp hlevel)
      (fileBriefing_eq_safeToEdit_iff.mp hsafe)

/-- Importers without tests never make a level lower. -/
theorem rank_profileWith_le (circular : List FileId) (inCycle : Bool) (importers : List FileId) :
    (profileWith facts circular inCycle importers untested).level.rank ≤
      (profileWith facts circular inCycle importers []).level.rank := by
  refine RiskEvidence.NoWorseThan.rank_le
    ⟨Nat.le_refl _, id, Nat.le_refl _, Nat.zero_le _, id, ?_, ?_⟩
  · exact Int.le_refl _
  · exact Int.le_refl _

/-- **A final profile is neither stale nor at odds with itself.** There is one when all importers
can be looked at. It says of the file what the facts and the import graph say, its parts agree, its
level is no lower than before, and to make it final again changes nothing. -/
theorem finalProfile_consistent (hg : g = .of cycles incoming nodes) (w : Workspace) (root : Path)
    (snapshot : List FileFacts) (facts : FileFacts) :
    ((∃ p, finalProfile w root snapshot facts (provisionalProfile facts g) = .ok p) ↔
        ∀ id ∈ g.importers facts.path,
          ∃ tested, importerHasTest w root snapshot id = .ok tested) ∧
      ∀ p, finalProfile w root snapshot facts (provisionalProfile facts g) = .ok p →
        p = profileWith facts (g.cycleMembers facts.path) (g.inCycle facts.path)
            (g.importers facts.path) p.downstreamUntested ∧
          p.Consistent (g.resolve facts.path) (importerHasTest w root snapshot) ∧
          p.level.rank ≤ (provisionalProfile facts g).level.rank ∧
          finalProfile w root snapshot facts p = .ok p := by
  simp only [finalProfile_eq_ok_iff, ← exists_withoutTest_iff]
  constructor
  · constructor
    · rintro ⟨p, untested, huntested, -⟩
      exact ⟨untested, huntested⟩
    · rintro ⟨untested, huntested⟩
      exact ⟨_, untested, huntested, rfl⟩
  · rintro p ⟨untested, huntested, rfl⟩
    refine ⟨rfl, consistent_profileWith hg huntested, rank_profileWith_le _ _ _, ?_⟩
    exact finalProfile_eq_ok_iff.mpr ⟨untested, huntested, rfl⟩

end finalProfile

/-! ### A file that others share -/

/-- The facts of a file that has tests. -/
def testedFacts (path : FileId) : FileFacts := { path, coverage := { hasTest := true } }

/-- The import graph of a file that four others import. -/
def sharedDependencies : Dependencies :=
  .of [] [("a.ts", ["b.ts", "c.ts", "d.ts", "e.ts"])] []

/-- The facts of the four, one of which has tests. -/
def sharingFacts : List FileFacts :=
  [{ path := "b.ts" }, { path := "c.ts" }, { path := "d.ts" }, testedFacts "e.ts"]

theorem resolve_sharedDependencies : sharedDependencies.resolve "a.ts" = ["a.ts"] :=
  Dependencies.resolve_of_known _ _ _ (by simp [Dependencies.knownIds])

theorem importers_sharedDependencies :
    sharedDependencies.importers "a.ts" = ["b.ts", "c.ts", "d.ts", "e.ts"] := by
  rw [Dependencies.importers, resolve_sharedDependencies]
  exact List.mergeSort_of_pairwise (by decide)

theorem level_provisionalProfile_shared :
    (provisionalProfile (testedFacts "a.ts") sharedDependencies).level = .low := by
  have hcircular : sharedDependencies.cycleMembers "a.ts" = [] := by
    rw [Dependencies.cycleMembers, resolve_sharedDependencies]
    exact List.mergeSort_nil
  have hcycle : sharedDependencies.inCycle "a.ts" = false := by
    rw [Dependencies.inCycle, resolve_sharedDependencies]
    rfl
  change (profileWith (testedFacts "a.ts") (sharedDependencies.cycleMembers "a.ts")
    (sharedDependencies.inCycle "a.ts") (sharedDependencies.importers "a.ts") []).level = .low
  rw [hcircular, hcycle, importers_sharedDependencies]
  rfl

/-- Its importers without tests raise the level of a file that is tested itself. -/
theorem finalProfile_consistent_shared :
    (provisionalProfile (testedFacts "a.ts") sharedDependencies).level = .low ∧
      ∃ p, finalProfile default ⟨.top, []⟩ sharingFacts (testedFacts "a.ts")
          (provisionalProfile (testedFacts "a.ts") sharedDependencies) = .ok p ∧
        p.level = .high ∧ p.briefing ≠ safeToEdit := by
  obtain ⟨hexists, hfinal⟩ := finalProfile_consistent (g := sharedDependencies) rfl default
    ⟨.top, []⟩ sharingFacts (testedFacts "a.ts")
  have htested : ∀ id ∈ sharedDependencies.importers "a.ts",
      ∃ tested, importerHasTest default ⟨.top, []⟩ sharingFacts id = .ok tested := by
    rw [importers_sharedDependencies]
    refine fun id hid => exists_eq_ok ?_
    revert id
    decide +kernel
  obtain ⟨p, hp⟩ := hexists.mpr htested
  obtain ⟨hparts, hconsistent, -⟩ := hfinal p hp
  have hincoming : p.incomingDeps = ["b.ts", "c.ts", "d.ts", "e.ts"] := by
    rw [hparts]
    exact importers_sharedDependencies
  have huntested : ["b.ts", "c.ts", "d.ts"] ⊆ p.downstreamUntested := by
    intro id hid
    rw [hconsistent.mem_untested_iff, hincoming]
    revert id
    decide +kernel
  have hlevel : p.level = .high := by
    rw [hconsistent.level_eq, classifyRisk_eq_high_iff, RiskEvidence.isHigh_iff]
    refine Or.inr (Or.inr (Or.inr (Or.inl ⟨?_, ?_⟩)))
    · change 3 < p.incomingDeps.length
      rw [hincoming]
      decide
    · exact (List.subperm_of_subset (by decide) huntested).length_le
  exact ⟨level_provisionalProfile_shared, p, hp, hlevel, hconsistent.briefing_ne hlevel⟩

end Preflight
