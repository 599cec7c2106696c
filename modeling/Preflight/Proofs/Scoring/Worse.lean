import Preflight.Proofs.Scoring.Bands
import Preflight.Proofs.Scoring.Monotone

/-!
# Worse code never scores better

A file that is at least as bad as another by everything that is measured has no better score on any
axis, and so no better score. Its number of lines bears on two axes, and both times more lines are
no better. A project in which such files take the place of others has no better score either.

## Main definitions

* `FileFacts.Ordinary`: a file that is scored by its measures.
* `FileFacts.NoBetterThan`: at least as bad by everything that is measured.

## Main results

* `on_le_of_noBetterThan`, `score_le_of_noBetterThan`: one file.
* `worse_never_scores_better`: files and projects.
-/

namespace Preflight

namespace FileFacts

/-- A file that is scored by its measures: it can be read, is not blank, and what is counted in it
are counts. -/
structure Ordinary (facts : FileFacts) : Prop where
  readable : facts.readable = true
  notBlank : facts.blank = false
  functions : ∀ f ∈ facts.source.functions, IsCount f.lineCount
  imports : IsCount facts.source.importCount
  comments : IsCount facts.source.commentLines
  lines : IsCount facts.source.totalLines

/-- A file is at least as bad as another by everything that is measured. One without functions has
none that could be longer. -/
structure NoBetterThan (worse better : FileFacts) : Prop where
  functions : better.source.functions = [] ∨
    List.Forall₂ (fun f f' => f.lineCount ≤ f'.lineCount) better.source.functions
      worse.source.functions
  imports : better.source.importCount ≤ worse.source.importCount
  lines : better.source.totalLines ≤ worse.source.totalLines
  comments : worse.source.commentLines ≤ better.source.commentLines
  tests : worse.coverage.hasTest = true → better.coverage.hasTest = true

/-- No quotient of an ordinary file is too large. -/
theorem Ordinary.overflows {facts : FileFacts} (h : facts.Ordinary) : facts.overflows = false := by
  have haverage : (averageFunctionLines? facts.source.functions).isNone = false := by
    rcases Decidable.em (facts.source.functions = []) with hnil | hne
    · rw [hnil]
      rfl
    · obtain ⟨v, hv, -⟩ := exists_average h.functions hne
      rw [hv]
      rfl
  rw [FileFacts.overflows, haverage, Bool.false_or]
  by_cases hzero : facts.source.totalLines = 0
  · simp [hzero]
  · obtain ⟨v, hv, -⟩ := exists_commentRatio h.comments h.lines hzero
    simp [hv]

variable {worse better : FileFacts}

/-- **Worse by every measure, no better on any axis.** -/
theorem on_le_of_noBetterThan (hworse : worse.Ordinary) (hbetter : better.Ordinary)
    (h : worse.NoBetterThan better) (axis : Axis) :
    (signalScores worse).on axis ≤ (signalScores better).on axis := by
  rw [signalScores, signalScores, hworse.notBlank, hbetter.notBlank,
    if_neg Bool.false_ne_true, if_neg Bool.false_ne_true]
  cases axis with
  | functionLength => exact functionLengthScore_mono hbetter.functions hworse.functions h.functions
  | coupling => exact couplingScore_mono h.imports
  | testCoverage => exact coverageScore_mono h.tests
  | commentDensity =>
    exact commentDensityScore_mono hbetter.comments hbetter.lines hworse.comments hworse.lines
      h.comments h.lines
  | fileSize => exact fileSizeScore_mono h.lines

/-- **Worse by every measure, no better score.** -/
theorem score_le_of_noBetterThan (hworse : worse.Ordinary) (hbetter : better.Ordinary)
    (h : worse.NoBetterThan better) : (scoreFile worse).score ≤ (scoreFile better).score := by
  rw [scoreFile, scoreFile, if_pos hworse.readable, if_pos hbetter.readable]
  exact weightedScore_mono (on_le_of_noBetterThan hworse hbetter h)

end FileFacts

/-- The score of a project with some files. -/
def projectScore (files : List FileFacts) : Int :=
  repoScore (files.map fun facts => (scoreFile facts).score)

/-- **Worse code never scores better.** Of two ordinary files, let one be at least as bad as the
other by everything that is measured. Then both have scores, and that of the worse one is no better,
on every axis and as a whole. A project in which ordinary files are replaced by worse ones has no
better score either. -/
theorem worse_never_scores_better :
    (∀ {worse better : FileFacts}, worse.Ordinary → better.Ordinary → worse.NoBetterThan better →
      (worse.overflows = false ∧ better.overflows = false) ∧
        (∀ axis, (signalScores worse).on axis ≤ (signalScores better).on axis) ∧
        (scoreFile worse).score ≤ (scoreFile better).score) ∧
      ∀ {before after : List FileFacts},
        List.Forall₂ (fun old new => new = old ∨
          new.Ordinary ∧ old.Ordinary ∧ new.NoBetterThan old) before after →
        projectScore after ≤ projectScore before := by
  refine ⟨fun hworse hbetter h => ⟨⟨hworse.overflows, hbetter.overflows⟩,
    FileFacts.on_le_of_noBetterThan hworse hbetter h,
    FileFacts.score_le_of_noBetterThan hworse hbetter h⟩, fun {before after} h => ?_⟩
  refine repoScore_mono (List.forall₂_map_left_iff.mpr (List.forall₂_map_right_iff.mpr ?_))
  refine h.flip.imp fun new old hfile => ?_
  rcases hfile with rfl | ⟨hnew, hold, hworse⟩
  · exact Int.le_refl _
  · exact FileFacts.score_le_of_noBetterThan hnew hold hworse

/-- A file with two functions, comments and tests. -/
def tidyFile : FileFacts :=
  { path := "a.ts"
    source :=
      { functions := [⟨"f", 20⟩, ⟨"g", 21⟩]
        importCount := 3
        commentLines := 16
        totalLines := 150 }
    coverage := { hasTest := true } }

/-- The same file when it has grown. -/
def grownFile : FileFacts :=
  { path := "a.ts"
    source :=
      { functions := [⟨"f", 40⟩, ⟨"g", 21⟩]
        importCount := 6
        commentLines := 16
        totalLines := 320 }
    coverage := { hasTest := true } }

theorem worse_never_scores_better_grownFile :
    grownFile.Ordinary ∧ tidyFile.Ordinary ∧ grownFile.NoBetterThan tidyFile ∧
      (scoreFile grownFile).score ≤ (scoreFile tidyFile).score ∧
      projectScore [grownFile, tidyFile] ≤ projectScore [tidyFile, tidyFile] := by
  have hcount : ∀ n : Nat, n < 1000 → IsCount n := fun n hn =>
    ⟨Int.natCast_nonneg n, Int.ofNat_lt.mpr (Nat.lt_of_lt_of_le hn (by decide))⟩
  have hgrown : grownFile.Ordinary :=
    { readable := rfl
      notBlank := rfl
      functions := by
        intro f hf
        rcases List.mem_pair.mp hf with rfl | rfl
        · exact hcount 40 (by decide)
        · exact hcount 21 (by decide)
      imports := hcount 6 (by decide)
      comments := hcount 16 (by decide)
      lines := hcount 320 (by decide) }
  have htidy : tidyFile.Ordinary :=
    { readable := rfl
      notBlank := rfl
      functions := by
        intro f hf
        rcases List.mem_pair.mp hf with rfl | rfl
        · exact hcount 20 (by decide)
        · exact hcount 21 (by decide)
      imports := hcount 3 (by decide)
      comments := hcount 16 (by decide)
      lines := hcount 150 (by decide) }
  have hworse : grownFile.NoBetterThan tidyFile :=
    { functions := Or.inr (.cons (by decide) (.cons (by decide) .nil))
      imports := by decide
      lines := by decide
      comments := by decide
      tests := id }
  have hproject : projectScore [grownFile, tidyFile] ≤ projectScore [tidyFile, tidyFile] :=
    worse_never_scores_better.2
      (.cons (Or.inr ⟨hgrown, htidy, hworse⟩) (.cons (Or.inl rfl) .nil))
  exact ⟨hgrown, htidy, hworse, (worse_never_scores_better.1 hgrown htidy hworse).2.2, hproject⟩

end Preflight
