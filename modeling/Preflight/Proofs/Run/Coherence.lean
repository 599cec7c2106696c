import Preflight.Proofs.Report.Limit
import Preflight.Proofs.Run.Comparison
import Preflight.Proofs.Run.Project
import Preflight.Proofs.Run.Summary
import Preflight.Proofs.Run.TestAdded
import Preflight.Proofs.Scoring.Mean
import Preflight.Proofs.Text.LetterCase

/-!
# All that is said of a scan fits together

What is said about all files of a scan is worked out part by part from the results for files: an
order, a tally, a mean, a summary and an exit code. Each part agrees with the files of the result.
A limit is applied last and takes files only, so the command line and the service show the first
files, and all else they say is what the result says of all files.

## Main definitions

* `AnalysisResult.Coherent`: a result is about some files, each once, and its parts agree.

## Main results

* `coherent_summarize`: results for different files at levels of an analysis make a coherent one.
* `results_coherent`: every run, and what is shown of it under a limit.
-/

namespace Preflight

/-! ### The summary of a report on risk -/

/-- The last words of a summary that raises no concern. -/
def allClear : String := "all clear, safe to start."

/-- **A summary ends in the all-clear** when nothing needs attention. -/
theorem riskSummary_endsWith_iff {counts : Counts} (hhigh : 0 ≤ counts.number .high)
    (hmedium : 0 ≤ counts.number .medium) (total : Int) :
    (riskSummary counts total).endsWith allClear = true ↔
      counts.number .high = 0 ∧ counts.number .medium = 0 := by
  have hnone : counts.number .high + counts.number .medium = 0 ↔
      counts.number .high = 0 ∧ counts.number .medium = 0 := by omega
  rw [← hnone, riskSummary, Text.endsWith_iff]
  dsimp only
  by_cases h : counts.number .high + counts.number .medium = 0
  · rw [if_pos h]
    refine iff_of_true ?_ h
    rw [String.toList_append]
    have hlast : allClear.toList <:+ " analyzed. all clear, safe to start.".toList := by decide
    exact hlast.trans (List.suffix_append _ _)
  · rw [if_neg h]
    refine iff_of_false (fun hends => ?_) h
    -- the summary ends in other words, and these are longer
    rw [String.toList_append] at hends
    have hlast := List.suffix_of_suffix_length_le hends
      (List.suffix_append _ " attention before starting your session.".toList) (by decide)
    exact absurd hlast (by decide)

/-! ### Coherence -/

/-- A result is about the files with some ids, each once, and all it says agrees with what it says
of them. -/
structure AnalysisResult.Coherent (r : AnalysisResult) (ids : List FileId) : Prop where
  known : r.policy = .score ∨ r.policy = .risk
  paths : (r.files.map (·.path)).Perm ids
  nodup : ids.Nodup
  about : ∀ x ∈ r.files, x.score.path = x.path ∧ x.risk.file = x.path
  byScore : r.policy = .score → r.files.Pairwise fun a b =>
    a.score.score < b.score.score ∨ a.score.score = b.score.score ∧ a.path < b.path
  byRisk : r.policy = .risk → r.files.Pairwise fun a b =>
    a.risk.level.rank < b.risk.level.rank ∨
      a.risk.level.rank = b.risk.level.rank ∧ a.path < b.path
  levels : ∀ x ∈ r.files, x.risk.level = .high ∨ x.risk.level = .medium ∨ x.risk.level = .low
  counts : r.counts.entries = [RiskLevel.high, .medium, .low].map fun level =>
    (level, (r.files.countP (·.risk.level = level) : Int))
  total : r.counts.number .high + r.counts.number .medium + r.counts.number .low = r.files.length
  overall_nil : r.files = [] → r.overall = 100
  overall : r.files ≠ [] →
    r.overall = ⌊((r.files.map (·.score.score)).sum : ℤ) / (r.files.length : ℚ) + 1 / 2⌋
  le_overall : r.files ≠ [] → ∀ low, (∀ x ∈ r.files, low ≤ x.score.score) → low ≤ r.overall
  overall_le : r.files ≠ [] → ∀ high, (∀ x ∈ r.files, x.score.score ≤ high) → r.overall ≤ high
  summary : r.policy = .risk → (r.summary.endsWith "all clear, safe to start." = true ↔
    r.counts.number .high = 0 ∧ r.counts.number .medium = 0)
  exit : r.policy = .risk → ∀ minScore, r.exitCode minScore = 1 ↔ 0 < r.counts.number .high

/-- Every file is at one of the levels of an analysis. -/
theorem countP_levels {rs : List FileResult} (h : ∀ x ∈ rs, x.risk.level ∈ RiskLevel.all) :
    rs.countP (·.risk.level = .high) + rs.countP (·.risk.level = .medium) +
      rs.countP (·.risk.level = .low) = rs.length := by
  induction rs with
  | nil => rfl
  | cons x rest ih =>
    have hrest := ih fun y hy => h y (List.mem_cons_of_mem _ hy)
    have hx := h x (List.mem_cons_self ..)
    simp only [RiskLevel.all, List.mem_cons, List.not_mem_nil, or_false] at hx
    have hone : (if x.risk.level = .high then 1 else 0) +
        (if x.risk.level = .medium then 1 else 0) + (if x.risk.level = .low then 1 else 0) = 1 := by
      rcases hx with hx | hx | hx
      all_goals
        rw [hx]
        rfl
    simp only [List.length_cons, List.countP_cons, decide_eq_true_eq]
    omega

section summarize

variable (root : Path) (policy : Policy) {rs : List FileResult}

theorem overall_summarize_files (rs : List FileResult) : (summarize root policy rs).overall =
    repoScore ((summarize root policy rs).files.map (·.score.score)) := by
  rw [overall_summarize]
  exact (repoScore_eq_of_perm ((summarize_files_perm root policy rs).map _)).symm

theorem counts_summarize (hlevels : ∀ x ∈ rs, x.risk.level ∈ RiskLevel.all) :
    (summarize root policy rs).counts = tally fun level =>
      (summarize root policy rs).files.countP (·.risk.level = level) := by
  have hperm := summarize_files_perm root policy rs
  calc (summarize root policy rs).counts = riskCounts rs := by
        rw [summarize]
        dsimp only
        split
        · rfl
        · rfl
    _ = tally fun level => rs.countP (·.risk.level = level) := riskCounts_eq hlevels
    _ = tally fun level => (summarize root policy rs).files.countP (·.risk.level = level) := by
        congr 1
        funext level
        rw [hperm.countP_eq]

theorem number_summarize (hlevels : ∀ x ∈ rs, x.risk.level ∈ RiskLevel.all) {level : RiskLevel}
    (hlevel : level ∈ RiskLevel.all) : (summarize root policy rs).counts.number level =
      (summarize root policy rs).files.countP (·.risk.level = level) := by
  rw [counts_summarize root policy hlevels, number_tally _ hlevel]

theorem summary_summarize_risk (rs : List FileResult) : (summarize root .risk rs).summary =
    riskSummary (summarize root .risk rs).counts (summarize root .risk rs).files.length := rfl

end summarize

theorem AnalysisResult.exitCode_eq_one_iff {r : AnalysisResult} (hrisk : r.policy = .risk)
    (minScore : Option Int) :
    r.exitCode minScore = 1 ↔ 0 < r.files.countP (·.risk.level = .high) := by
  simp [exitCode, hrisk, hasHighRisk]

/-- Results for different files, at levels of an analysis, make a coherent result. -/
theorem coherent_summarize (root : Path) {policy : Policy}
    (hknown : policy = .score ∨ policy = .risk) {rs : List FileResult}
    (hpaths : (rs.map (·.path)).Nodup)
    (habout : ∀ x ∈ rs, x.score.path = x.path ∧ x.risk.file = x.path)
    (hlevels : ∀ x ∈ rs, x.risk.level ∈ RiskLevel.all) :
    (summarize root policy rs).Coherent (rs.map (·.path)) := by
  have hperm := summarize_files_perm root policy rs
  have hpolicy := policy_summarize root policy rs
  have hoverall := overall_summarize_files root policy rs
  have hnumber : ∀ level ∈ RiskLevel.all, (summarize root policy rs).counts.number level =
      (summarize root policy rs).files.countP (·.risk.level = level) :=
    fun _ hlevel => number_summarize root policy hlevels hlevel
  have hhigh := hnumber .high (by decide)
  have hmedium := hnumber .medium (by decide)
  have hlow := hnumber .low (by decide)
  replace hlevels : ∀ x ∈ (summarize root policy rs).files, x.risk.level ∈ RiskLevel.all :=
    fun x hx => hlevels x (hperm.mem_iff.mp hx)
  have hscores : (summarize root policy rs).files ≠ [] →
      (summarize root policy rs).files.map (·.score.score) ≠ [] :=
    fun hne hnil => hne (List.map_eq_nil_iff.mp hnil)
  exact {
    known := by rwa [hpolicy]
    paths := hperm.map _
    nodup := hpaths
    about := fun x hx => habout x (hperm.mem_iff.mp hx)
    byScore := by
      intro hscore
      obtain rfl := hpolicy.symm.trans hscore
      exact pairwise_mergeSort_precedesBy (·.score.score) hpaths
    byRisk := by
      intro hrisk
      obtain rfl := hpolicy.symm.trans hrisk
      exact pairwise_mergeSort_precedesBy (·.risk.level.rank) hpaths
    levels := by
      intro x hx
      simpa [RiskLevel.all] using hlevels x hx
    counts := by
      rw [counts_summarize root policy fun x hx => hlevels x (hperm.mem_iff.mpr hx)]
      rfl
    total := by
      rw [hhigh, hmedium, hlow]
      exact_mod_cast countP_levels hlevels
    overall_nil := by
      intro hnil
      rw [hoverall, hnil]
      rfl
    overall := by
      intro hne
      rw [hoverall, repoScore_eq_floor (hscores hne), List.length_map]
    le_overall := by
      intro hne low h
      rw [hoverall]
      exact le_repoScore (hscores hne) (List.forall_mem_map.mpr h)
    overall_le := by
      intro hne high h
      rw [hoverall]
      exact repoScore_le (hscores hne) (List.forall_mem_map.mpr h)
    summary := by
      intro hrisk
      obtain rfl := hpolicy.symm.trans hrisk
      rw [summary_summarize_risk]
      exact riskSummary_endsWith_iff (by omega) (by omega) _
    exit := by
      intro hrisk minScore
      rw [AnalysisResult.exitCode_eq_one_iff hrisk, hhigh, Int.natCast_pos] }

/-- **Every result is coherent**, about the files that the scan finds. -/
theorem Engine.exists_coherent_of_run {e : Engine} {w : Workspace} (hw : w.WellNamed)
    {cache : GraphCache} {name policyName : String} {r : AnalysisResult}
    (h : (e.run w cache name policyName).outcome.result = .ok r) :
    ∃ found, w.scan e.settings name = .ok found ∧ r.Coherent (found.files.map found.fileId) := by
  obtain ⟨hknown, found, hscan, hanalyze⟩ := run_eq_ok_iff.mp h
  have hids := ScanTarget.leadsBack_of_scan hw hscan
  obtain ⟨g, -, rs, hrs, rfl⟩ := (analyze_eq_ok_iff hids).mp hanalyze
  have hnodup := ScanTarget.fileIds_nodup hw hscan
  have habout : ∀ x ∈ rs, x.score.path = x.path ∧ x.risk.file = x.path := by
    intro x hx
    obtain ⟨file, -, hverdict⟩ := exists_mem_of_forall₂ hrs hx
    exact Workspace.verdict_about hverdict
  have hlevels : ∀ x ∈ rs, x.risk.level ∈ RiskLevel.all := by
    intro x hx
    obtain ⟨file, -, hverdict⟩ := exists_mem_of_forall₂ hrs hx
    exact (Workspace.verdict_ok hverdict).2
  refine ⟨found, hscan, ?_⟩
  rw [← Workspace.map_path_of_verdicts hrs] at hnodup ⊢
  refine coherent_summarize _ ?_ hnodup habout hlevels
  simpa [Policy.isKnown, Policy.all, or_comm] using hknown

/-! ### What is shown of a result -/

open CommandLine in
/-- **All that is said of a scan fits together.** The result of a run is about the files of its
scan, and its parts agree. Under every limit the command line and the service show its first files,
each by its name. The numbers by level, the score of the project, the summary and the
recommendations they show, and the exit code they end with, are those of the whole result. -/
theorem results_coherent {e : Engine} {w : Workspace} (hw : w.WellNamed) {cache : GraphCache}
    {name policyName : String} {r : AnalysisResult}
    (h : (e.run w cache name policyName).outcome.result = .ok r) :
    (∃ found, w.scan e.settings name = .ok found ∧ r.Coherent (found.files.map found.fileId)) ∧
    (∀ x ∈ r.files, x.NamedBy x.path) ∧
    (∀ top, r.limited top = r.first (r.shownFiles top)) ∧
    (∀ top : Int, r.shownFiles (some top) =
      if top < 0 then r.files.length else min top.toNat r.files.length) ∧
    (∀ (request : ScanRequest) (config : Config) (terminal : Bool),
      (w.runProject request.path request.policy).result = .ok ⟨config, r⟩ →
      ∀ top shown color,
        shown = r.shownFiles (top.orElse fun _ => config.top) →
        color = (!request.plain && request.formatFor config = .table && terminal) →
        ReportShows r (r.files.take shown) request.explain ⟨color⟩ (request.formatFor config)
          (render (r.first shown) (request.formatFor config) request.explain color) ∧
        (performScan w terminal { request with top }).result = .ok
          { exit := r.exitCode (request.minScore.orElse fun _ => config.minScore)
            output :=
              if r.files.isEmpty && request.formatFor config = .table then
                emptyNote (shownPath w request.path)
              else
                render (r.first shown) (request.formatFor config) request.explain color ++
                  "\n" }) ∧
    (∀ (body : Option Posted) (request : ReportRequest) (config : Config),
      ReportRequest.ofBody? body = some request →
      (w.runProject request.path request.policy).result = .ok ⟨config, r⟩ →
      ∀ shown, shown = r.shownFiles (request.top.orElse fun _ => config.top) →
        PayloadShows r (r.files.take shown) (r.first shown).members ∧
        w.respondReport body = ⟨200, some (.obj
          ((r.first shown).members ++ [("exit_code", .num (r.exitCode config.minScore))]))⟩) := by
  obtain ⟨found, hfound, hcoherent⟩ := Engine.exists_coherent_of_run hw h
  have hcounts : r.counts.entries.map (·.1) = [RiskLevel.high, .medium, .low] := by
    rw [hcoherent.counts]
    rfl
  refine ⟨⟨found, hfound, hcoherent⟩, ?_, r.limited_eq_first, r.shownFiles_some, ?_, ?_⟩
  · intro x hx
    obtain ⟨hscore, hrisk⟩ := hcoherent.about x hx
    exact FileResult.namedBy_path hscore hrisk
  · rintro request config terminal hrun top _ _ rfl rfl
    refine ⟨AnalysisResult.reportShows_first hcoherent.known hcounts _ _ _ _, ?_⟩
    have hscan : (performScan w terminal { request with top }).result = _ :=
      performScan_of_runProject terminal hrun
    rw [hscan, scanEnd, AnalysisResult.limited_eq_first]
    rfl
  · rintro body request config hbody hrun _ rfl
    refine ⟨AnalysisResult.payloadShows_first hcoherent.known hcounts _, ?_⟩
    rw [Workspace.respondReport_of_runProject hbody hrun, ReportRequest.report,
      AnalysisResult.limited_eq_first]

open CommandLine in
/-- A project of one file, scanned and asked for with no files to be shown. -/
theorem results_coherent_oneFile :
    ∃ r, (Engine.run ⟨{}, Workspace.buildGraph {}⟩ oneFile {} "/p" "risk").outcome.result = .ok r ∧
      r.Coherent ["a.ts"] ∧
      PayloadShows r [] (r.first 0).members ∧
      (performScan oneFile false { path := "/p", json := true, top := some 0 }).result =
        .ok { exit := r.exitCode none, output := render (r.first 0) .json false false ++ "\n" } ∧
      oneFile.respondReport (some (.fields [("path", .text "/p"), ("top", .whole 0)])) =
        ⟨200, some (.obj ((r.first 0).members ++ [("exit_code", .num (r.exitCode none))]))⟩ := by
  obtain ⟨r, hr⟩ := exists_run_oneFile "risk" (by decide)
  have hrun : (oneFile.runProject "/p" none).result = .ok ⟨{ root := ⟨.top, ["p"]⟩ }, r⟩ :=
    Workspace.runProject_eq_ok_iff.mpr ⟨⟨.top, ["p"]⟩, rfl, rfl, hr⟩
  obtain ⟨⟨found, hscan, hcoherent⟩, -, -, -, hcommand, hservice⟩ :=
    results_coherent wellNamed_oneFile hr
  obtain rfl := Except.ok.inj (scan_oneFile.symm.trans hscan)
  replace hcoherent : r.Coherent ["a.ts"] := hcoherent
  have hlength : r.files.length = 1 := by
    have := hcoherent.paths.length_eq
    rwa [List.length_map] at this
  have hshown : 0 = r.shownFiles (some 0) := by
    simp [AnalysisResult.shownFiles, AnalysisResult.isCutBy, hlength]
  obtain ⟨-, hoverCommand⟩ :=
    hcommand { path := "/p", json := true } _ false hrun (some 0) 0 false hshown rfl
  obtain ⟨hpayload, hoverService⟩ :=
    hservice (some (.fields [("path", .text "/p"), ("top", .whole 0)])) ⟨"/p", none, some 0⟩ _
      (by decide +kernel) hrun 0 hshown
  refine ⟨r, hr, hcoherent, hpayload, ?_, hoverService⟩
  simpa [ScanRequest.formatFor] using hoverCommand

end Preflight
