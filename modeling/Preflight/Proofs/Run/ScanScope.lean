import Preflight.Proofs.Run.Verdict

/-!
# Results do not depend on what else is scanned

Two scans of one project may share some of their files. A shared file has the same result in
both runs: the import graph is that of the project, and whether an importer has tests is the same
whether the importer was scanned or is looked up.

## Main definitions

* `AnalysisResult.resultsFor`: what the result of a run holds for an id.

## Main results

* `scan_scope_irrelevant`: shared files have the same results, for any two scans of a project.
-/

namespace Preflight

/-- What the result of a run holds for an id. -/
def AnalysisResult.resultsFor (r : AnalysisResult) (id : FileId) : List FileResult :=
  r.files.filter (·.path == id)

theorem filter_path_eq_singleton {rs : List FileResult} (hrs : (rs.map (·.path)).Nodup)
    {x : FileResult} (hx : x ∈ rs) : rs.filter (·.path == x.path) = [x] := by
  induction rs with
  | nil => cases hx
  | cons y rest ih =>
    rw [List.map_cons, List.nodup_cons] at hrs
    obtain ⟨hy, hrest⟩ := hrs
    rcases List.mem_cons.mp hx with rfl | hx
    · have hnone : rest.filter (·.path == x.path) = [] := by
        refine List.filter_eq_nil_iff.mpr fun z hz hzx => hy ?_
        rw [← beq_iff_eq.mp hzx]
        exact List.mem_map_of_mem hz
      rw [List.filter_cons, if_pos (beq_self_eq_true _), hnone]
    · have hne : ¬(y.path == x.path) = true := by
        intro hyx
        rw [beq_iff_eq.mp hyx] at hy
        exact hy (List.mem_map_of_mem hx)
      rw [List.filter_cons, if_neg hne, ih hrest hx]

section

variable {e : Engine} {w : Workspace} {name policy : String} {found : ScanTarget}
  {cache : GraphCache} {r : AnalysisResult}

/-- What a run with a result has found: an import graph and a verdict on every file. -/
theorem verdicts_of_run (hw : w.WellNamed) (h : w.scan e.settings name = .ok found)
    (hr : (e.run w cache name policy).outcome.result = .ok r) :
    ∃ g, e.graph w cache found.projectRoot = .ok g ∧
      ∃ rs, List.Forall₂ (fun file x => w.verdict found g file = .ok x) found.files rs ∧
        r.files.Perm rs := by
  obtain ⟨-, found', hfound', hanalyze⟩ := Engine.run_eq_ok_iff.mp hr
  obtain rfl := Except.ok.inj (h.symm.trans hfound')
  have hids := ScanTarget.leadsBack_of_scan hw h
  obtain ⟨g, hg, rs, hrs, rfl⟩ := (Engine.analyze_eq_ok_iff hids).mp hanalyze
  exact ⟨g, hg, rs, hrs, summarize_files_perm _ _ rs⟩

/-- The result of a run holds the verdict on a file under its id, and nothing else. -/
theorem resultsFor_of_run (hw : w.WellNamed) (h : w.scan e.settings name = .ok found)
    {g : Dependencies} {rs : List FileResult}
    (hrs : List.Forall₂ (fun file x => w.verdict found g file = .ok x) found.files rs)
    (hr : r.files.Perm rs) {file : Path} (hfile : file ∈ found.files) :
    ∃ x, w.verdict found g file = .ok x ∧ r.resultsFor (found.fileId file) = [x] := by
  obtain ⟨x, hx, hverdict⟩ := exists_mem_of_forall₂_left hrs hfile
  refine ⟨x, hverdict, ?_⟩
  have hnodup : (rs.map (·.path)).Nodup := by
    rw [Workspace.map_path_of_verdicts hrs]
    exact ScanTarget.fileIds_nodup hw h
  rw [← (Workspace.verdict_ok hverdict).1, AnalysisResult.resultsFor]
  have hperm := hr.filter (·.path == x.path)
  rw [filter_path_eq_singleton hnodup hx] at hperm
  exact List.perm_singleton.mp hperm

end

/-- **Results do not depend on what else is scanned.** Where two scans find the same project, a
file that both select has one result in either run, and the same in both; the caches the runs
start from agree on the project, as two empty ones do. A run on part of another scan has a
result if the run on that scan has one. And whether an importer has tests can be read off the
facts of a scan as well as it can be looked up. -/
theorem scan_scope_irrelevant {e : Engine} {w : Workspace} (hw : w.WellNamed)
    {name₁ name₂ policy₁ policy₂ : String} {found₁ found₂ : ScanTarget}
    {cache₁ cache₂ : GraphCache}
    (h₁ : w.scan e.settings name₁ = .ok found₁) (h₂ : w.scan e.settings name₂ = .ok found₂)
    (hroot : found₁.projectRoot = found₂.projectRoot)
    (hcache : cache₁.get? found₁.projectRoot = cache₂.get? found₁.projectRoot) :
    (∀ r₁ r₂, (e.run w cache₁ name₁ policy₁).outcome.result = .ok r₁ →
      (e.run w cache₂ name₂ policy₂).outcome.result = .ok r₂ →
      ∀ file ∈ found₁.files, file ∈ found₂.files →
        ∃ x, r₁.resultsFor (found₁.fileId file) = [x] ∧
          r₂.resultsFor (found₂.fileId file) = [x]) ∧
    (∀ r₂, (e.run w cache₂ name₂ policy₂).outcome.result = .ok r₂ →
      (Policy.ofName policy₁).isKnown = true → (∀ file ∈ found₁.files, file ∈ found₂.files) →
      ∃ r₁, (e.run w cache₁ name₁ policy₁).outcome.result = .ok r₁) ∧
    (∀ snapshot, (Logged.each (w.gatherFacts found₁) found₁.files).result = .ok snapshot →
      ∀ importer, importerHasTest w found₁.projectRoot snapshot importer =
        (w.discoverTests (found₁.projectRoot.join (Path.ofString importer))
          found₁.projectRoot).map (·.hasTest)) := by
  have hgraph : e.graph w cache₁ found₁.projectRoot = e.graph w cache₂ found₂.projectRoot := by
    rw [Engine.graph_congr hcache, hroot]
  have hverdict : w.verdict found₁ = w.verdict found₂ := Workspace.verdict_congr hroot
  refine ⟨?_, ?_, ?_⟩
  · intro r₁ r₂ hr₁ hr₂ file hfile₁ hfile₂
    obtain ⟨g₁, hg₁, rs₁, hrs₁, hperm₁⟩ := verdicts_of_run hw h₁ hr₁
    obtain ⟨g₂, hg₂, rs₂, hrs₂, hperm₂⟩ := verdicts_of_run hw h₂ hr₂
    obtain rfl : g₁ = g₂ := Except.ok.inj (hg₁.symm.trans (hgraph.trans hg₂))
    obtain ⟨x₁, hx₁, hfor₁⟩ := resultsFor_of_run hw h₁ hrs₁ hperm₁ hfile₁
    obtain ⟨x₂, hx₂, hfor₂⟩ := resultsFor_of_run hw h₂ hrs₂ hperm₂ hfile₂
    rw [hverdict, hx₂] at hx₁
    obtain rfl := Except.ok.inj hx₁
    exact ⟨x₂, hfor₁, hfor₂⟩
  · intro r₂ hr₂ hpolicy hsubset
    obtain ⟨g, hg, rs₂, hrs₂, -⟩ := verdicts_of_run hw h₂ hr₂
    have hids := ScanTarget.leadsBack_of_scan hw h₁
    obtain ⟨r₁, hr₁⟩ : ∃ r₁,
        (e.analyze w cache₁ found₁ (Policy.ofName policy₁)).outcome.result = .ok r₁ := by
      rw [Engine.exists_analyze_eq_ok_iff hids]
      refine ⟨g, hgraph.trans hg, fun file hfile => ?_⟩
      obtain ⟨x, -, hx⟩ := exists_mem_of_forall₂_left hrs₂ (hsubset file hfile)
      rw [hverdict]
      exact ⟨x, hx⟩
    exact ⟨r₁, Engine.run_eq_ok_iff.mpr ⟨hpolicy, found₁, h₁, hr₁⟩⟩
  · intro snapshot hsnapshot importer
    exact Workspace.importerHasTest_snapshot (ScanTarget.leadsBack_of_scan hw h₁) hsnapshot importer

/-- A file scanned alone, and with the file that imports it. -/
theorem scan_scope_irrelevant_twoFiles :
    ∃ r₁ r₂ x, (twoFilesEngine.run twoFiles {} "/p/b.ts" "risk").outcome.result = .ok r₁ ∧
      (twoFilesEngine.run twoFiles {} "/p" "score").outcome.result = .ok r₂ ∧
      r₁.resultsFor "b.ts" = [x] ∧ r₂.resultsFor "b.ts" = [x] := by
  have halone : twoFiles.scan {} "/p/b.ts" =
      .ok ⟨⟨.top, ["p"]⟩, ⟨.top, ["p"]⟩, [⟨.top, ["p", "b.ts"]⟩]⟩ := rfl
  obtain ⟨hsame, hexists, -⟩ := @scan_scope_irrelevant twoFilesEngine twoFiles wellNamed_twoFiles
    "/p/b.ts" "/p" "risk" "score" _ _ {} {} halone scan_twoFiles rfl rfl
  obtain ⟨r₂, hr₂⟩ := exists_analyze_twoFiles (Policy.ofName "score")
  replace hr₂ : (twoFilesEngine.run twoFiles {} "/p" "score").outcome.result = .ok r₂ :=
    Engine.run_eq_ok_iff.mpr ⟨by decide, _, scan_twoFiles, hr₂⟩
  obtain ⟨r₁, hr₁⟩ := hexists r₂ hr₂ (by decide) (by decide)
  obtain ⟨x, hx₁, hx₂⟩ := hsame r₁ r₂ hr₁ hr₂ ⟨.top, ["p", "b.ts"]⟩ (by decide) (by decide)
  exact ⟨r₁, r₂, x, hr₁, hr₂, hx₁, hx₂⟩

end Preflight
