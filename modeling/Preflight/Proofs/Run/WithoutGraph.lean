import Preflight.Proofs.Risk.Level
import Preflight.Proofs.Run.Comparison
import Preflight.Proofs.Run.ScoreReport

/-!
# Runs without an import graph

Where the import graph of a project cannot be built and the failure was foreseen, a run goes on
with the empty graph. Look-ups in it find nothing, so of every file only its own text and its own
tests count for its level, which gets no higher for that. Facts and scores never come from the
graph, and neither does anything in a report on scores.

## Main definitions

* `RiskProfile.IsLocal`: a profile that says nothing about other files.
* `Degrades`: the result for a file, and the one for it without a graph.

## Main results

* `Workspace.verdict_degrades`: every verdict has one without a graph to go with it.
* `failed_graph_only_removes_signals`: a run whose graph fails, against one whose graph does not.
-/

namespace Preflight

/-- A profile that says nothing about other files: no cycles, no importers. -/
structure RiskProfile.IsLocal (p : RiskProfile) : Prop where
  circularDeps : p.circularDeps = []
  inCycle : p.inCycle = false
  incomingDeps : p.incomingDeps = []
  downstreamUntested : p.downstreamUntested = []

/-- A result, and one with the same facts and score, a level that is no higher, and nothing about
other files. -/
structure Degrades (x x' : FileResult) : Prop where
  facts : x'.facts = x.facts
  score : x'.score = x.score
  level : x.risk.level.rank ≤ x'.risk.level.rank
  isLocal : x'.risk.IsLocal

theorem Degrades.sameScore {x x' : FileResult} (h : Degrades x x') : SameScore x x' :=
  ⟨h.facts.symm, h.score.symm⟩

/-! ### Look-ups in the empty graph -/

theorem sortedSet_nil : sortedSet [] = [] := List.mergeSort_nil

namespace Dependencies

/-- In the empty graph no id is known, not even by its stem. -/
theorem resolve_empty (id : FileId) : empty.resolve id = [] := by
  have hstems : empty.byStem = [] := by
    rw [show empty.byStem = stemIndex (sortedSet []) from rfl, sortedSet_nil]
    rfl
  rw [resolve, hstems]
  rfl

theorem cycleMembers_empty (id : FileId) : empty.cycleMembers id = [] := by
  rw [cycleMembers, resolve_empty]
  exact sortedSet_nil

theorem inCycle_empty (id : FileId) : empty.inCycle id = false := by
  rw [inCycle, resolve_empty]
  rfl

theorem importers_empty (id : FileId) : empty.importers id = [] := by
  rw [importers, resolve_empty]
  exact sortedSet_nil

end Dependencies

/-- After a failure that was foreseen, a run has the empty graph. -/
theorem Engine.graph_of_foreseen {e : Engine} {w : Workspace} {project : Path}
    {failure : GraphFailure} (hfailure : (e.builder w project).result = .error failure)
    (hforeseen : failure.isForeseen = true) : e.graph w {} project = .ok Dependencies.empty := by
  rw [graph, GraphCache.getOrBuild_of_get?_eq_none rfl, GraphBuilder.orEmpty,
    Logged.result_recover_error hfailure, GraphBuilder.withoutGraph, if_pos hforeseen]
  rfl

/-! ### Verdicts -/

/-- **Every verdict has one without a graph to go with it.** No test has to be looked for. -/
theorem Workspace.verdict_degrades {w : Workspace} {target : ScanTarget} {g : Dependencies}
    {file : Path} {x : FileResult} (h : w.verdict target g file = .ok x) :
    ∃ x', w.verdict target Dependencies.empty file = .ok x' ∧ Degrades x x' := by
  obtain ⟨facts, untested, hfacts, -, rfl⟩ := verdict_eq_ok_iff.mp h
  have hempty : w.verdict target Dependencies.empty file =
      .ok ⟨facts, scoreFile facts, profileWith facts [] false [] []⟩ := by
    refine verdict_eq_ok_iff.mpr ⟨facts, [], hfacts, ?_, ?_⟩
    · rw [Dependencies.importers_empty, untestedImporters, withoutTest, Except.map, sorted,
        List.mergeSort_nil]
    · rw [Dependencies.cycleMembers_empty, Dependencies.inCycle_empty,
        Dependencies.importers_empty]
  refine ⟨_, hempty, rfl, rfl, ?_, rfl, rfl, rfl, rfl⟩
  refine RiskEvidence.NoWorseThan.rank_le ?_
  exact
    { circular := Nat.zero_le _
      inCycle := fun h => absurd h Bool.false_ne_true
      incoming := Nat.zero_le _
      untested := Nat.zero_le _
      hasTest := id
      mutations := Int.le_refl _
      missing := Int.le_refl _ }

/-! ### Runs -/

/-- The mean score comes from the scores alone. -/
theorem overall_summarize_eq {rs rs' : List FileResult} (h : List.Forall₂ SameScore rs rs')
    (root : Path) (policy : Policy) :
    (summarize root policy rs').overall = (summarize root policy rs).overall := by
  rw [overall_summarize, overall_summarize, map_eq_of_sameScore (fun x x' hx => by rw [hx.2]) h]

/-- **A failed import graph only removes what a graph says.** Whenever a run has a result, so has
one whose graph fails in a way that was foreseen. It is about the same files, with the same facts,
the same scores and the same mean score. Under the policy of scores the report and the exit code
are the same. Under that of risk no file has cycles, importers or untested importers, and no level
is higher; so no run fails that did not. -/
theorem failed_graph_only_removes_signals {settings : ScanSettings} {full failing : GraphBuilder}
    {w : Workspace} (hw : w.WellNamed)
    {name policyName : String}
    (hfailing : ∀ found, w.scan settings name = .ok found →
      ∃ failure, (failing w found.projectRoot).result = .error failure ∧
        failure.isForeseen = true)
    {r : AnalysisResult}
    (hr : (Engine.run ⟨settings, full⟩ w {} name policyName).outcome.result = .ok r) :
    ∃ r', (Engine.run ⟨settings, failing⟩ w {} name policyName).outcome.result = .ok r' ∧
      r.Match Degrades r' ∧ r'.overall = r.overall ∧ (∀ x' ∈ r'.files, x'.risk.IsLocal) ∧
      (r.policy = .score → r'.toJson = r.toJson ∧
        ∀ minScore, r'.exitCode minScore = r.exitCode minScore) ∧
      ∀ minScore, r.exitCode minScore = 0 → r'.exitCode minScore = 0 := by
  obtain ⟨-, found, hscan, -⟩ := Engine.run_eq_ok_iff.mp hr
  have hverdicts : ∀ g, Engine.graph ⟨settings, full⟩ w {} found.projectRoot = .ok g →
      ∃ g', Engine.graph ⟨settings, failing⟩ w {} found.projectRoot = .ok g' ∧
        ∀ file ∈ found.files, ∀ x, w.verdict found g file = .ok x →
          ∃ x', w.verdict found g' file = .ok x' ∧ Degrades x x' := by
    intro g _
    obtain ⟨failure, hfailure, hforeseen⟩ := hfailing found hscan
    refine ⟨Dependencies.empty, Engine.graph_of_foreseen hfailure hforeseen, ?_⟩
    intro file _ x hx
    exact Workspace.verdict_degrades hx
  obtain ⟨rs, rs', hmatched, rfl, hr'⟩ := Engine.exists_matched_run ⟨settings, full⟩
    ⟨settings, failing⟩ hw hscan hscan hverdicts hr
  have hsame : List.Forall₂ SameScore rs rs' := hmatched.forall₂.imp fun _ _ => Degrades.sameScore
  have hmatch := hmatched.toMatch found.projectRoot (Policy.ofName policyName)
  have hoverall := overall_summarize_eq hsame found.projectRoot (Policy.ofName policyName)
  refine ⟨_, hr', hmatch, hoverall, ?_, ?_, ?_⟩
  · intro x' hx'
    obtain ⟨x, -, hx⟩ := hmatch.exists_mem hx'
    exact hx.isLocal
  · intro hscore
    rw [policy_summarize] at hscore
    rw [hscore] at hoverall ⊢
    exact ⟨(toJson_summarize_score found.projectRoot hsame).symm,
      AnalysisResult.exitCode_eq_of_score (policy_summarize ..) (policy_summarize ..) hoverall⟩
  · intro minScore
    refine hmatch.exitCode_eq_zero (fun _ _ => Degrades.level) ?_ (Int.le_of_eq hoverall.symm)
    rw [policy_summarize, policy_summarize]

/-- A builder that gives up. -/
def givesUp : GraphBuilder := fun _ _ => .fail (.other "no memory left" true)

/-- Two files, one of which imports the other, with their import graph and without it. -/
theorem failed_graph_only_removes_signals_twoFiles :
    ∃ r r', (twoFilesEngine.run twoFiles {} "/p" "risk").outcome.result = .ok r ∧
      (Engine.run ⟨{}, givesUp⟩ twoFiles {} "/p" "risk").outcome.result = .ok r' ∧
      r.Match Degrades r' ∧ r'.overall = r.overall := by
  obtain ⟨r, hr⟩ := exists_analyze_twoFiles .risk
  replace hr : (twoFilesEngine.run twoFiles {} "/p" "risk").outcome.result = .ok r :=
    Engine.run_eq_ok_iff.mpr ⟨by decide, _, scan_twoFiles, hr⟩
  have hfailing : ∀ found, twoFiles.scan {} "/p" = .ok found →
      ∃ failure, (givesUp twoFiles found.projectRoot).result = .error failure ∧
        failure.isForeseen = true := fun _ _ => ⟨_, rfl, rfl⟩
  obtain ⟨r', hr', hmatch, hoverall, -⟩ :=
    failed_graph_only_removes_signals wellNamed_twoFiles hfailing hr
  exact ⟨r, r', hr, hr', hmatch, hoverall⟩

end Preflight
