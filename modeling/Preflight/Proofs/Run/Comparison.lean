import Preflight.Proofs.Run.Verdict

/-!
# Two runs on the same files

Two runs may differ in the file tree or in the import graph and still select the same files. Where
every verdict of the first run is matched by one of the second, the second run has a result if the
first has one, and the two results hold matching verdicts for every file.

## Main definitions

* `Matched`: two lists of results about the same different files, in the same order, each result
  matched by the other at its place.
* `AnalysisResult.Match`: two results that hold matching verdicts for the same files.

## Main results

* `Engine.exists_matched_run`: a second run, verdict by verdict.
* `Matched.toMatch`: what matches by place matches by id, in any order.
* `AnalysisResult.Match.exitCode_eq_zero`: where nothing gets worse, no run fails that did not.
-/

namespace Preflight

/-- Results of two runs about the same files, no two of them about one file, each matched by the
other at its place. -/
structure Matched (R : FileResult → FileResult → Prop) (rs rs' : List FileResult) : Prop where
  forall₂ : List.Forall₂ R rs rs'
  paths : rs'.map (·.path) = rs.map (·.path)
  nodup : (rs.map (·.path)).Nodup

/-- Two results about the same files, with a matching verdict for each of them. -/
structure AnalysisResult.Match (R : FileResult → FileResult → Prop) (r r' : AnalysisResult) :
    Prop where
  paths : (r'.files.map (·.path)).Perm (r.files.map (·.path))
  verdicts : ∀ x ∈ r.files, ∀ x' ∈ r'.files, x'.path = x.path → R x x'

namespace Matched

variable {R : FileResult → FileResult → Prop} {rs rs' : List FileResult}

/-- Results that are about one file match. -/
theorem of_path_eq (h : Matched R rs rs') {x x' : FileResult} (hx : x ∈ rs) (hx' : x' ∈ rs')
    (hpath : x'.path = x.path) : R x x' := by
  obtain ⟨hR, hpaths, hnodup⟩ := h
  induction hR with
  | nil => cases hx
  | @cons a a' as as' ha _ ih =>
    rw [List.map_cons, List.map_cons, List.cons.injEq] at hpaths
    rw [List.map_cons, List.nodup_cons] at hnodup
    rcases List.mem_cons.mp hx with rfl | hx
    · rcases List.mem_cons.mp hx' with rfl | hx'
      · exact ha
      · refine absurd ?_ hnodup.1
        rw [← hpath, ← hpaths.2]
        exact List.mem_map_of_mem hx'
    · rcases List.mem_cons.mp hx' with rfl | hx'
      · refine absurd ?_ hnodup.1
        rw [← hpaths.1, hpath]
        exact List.mem_map_of_mem hx
      · exact ih hx hx' hpaths.2 hnodup.2

/-- What is said about all files of two runs together is about the same files, and the verdicts on
each of them match. -/
theorem toMatch (h : Matched R rs rs') (root : Path) (policy : Policy) :
    (summarize root policy rs).Match R (summarize root policy rs') where
  paths := by
    have hperm := (summarize_files_perm root policy rs').map (·.path)
    rw [h.paths] at hperm
    exact hperm.trans ((summarize_files_perm root policy rs).map (·.path)).symm
  verdicts := fun _ hx _ hx' hpath =>
    h.of_path_eq ((summarize_files_perm root policy rs).mem_iff.mp hx)
      ((summarize_files_perm root policy rs').mem_iff.mp hx') hpath

end Matched

/-! ### Policies, mean scores and exit codes -/

theorem policy_summarize (root : Path) (policy : Policy) (rs : List FileResult) :
    (summarize root policy rs).policy = policy := by
  rw [summarize]
  dsimp only
  split
  · rfl
  · rfl

theorem overall_summarize (root : Path) (policy : Policy) (rs : List FileResult) :
    (summarize root policy rs).overall = repoScore (rs.map (·.score.score)) := by
  rw [summarize]
  dsimp only
  split
  · rfl
  · rfl

namespace AnalysisResult

variable {R : FileResult → FileResult → Prop} {r r' : AnalysisResult}

theorem hasHighRisk_iff : r.hasHighRisk = true ↔ ∃ x ∈ r.files, x.risk.level.rank = 0 := by
  have hrank : ∀ level : RiskLevel, level.rank = 0 ↔ level = .high := by
    intro level
    cases level with
    | high => exact iff_of_true rfl rfl
    | medium | low | custom _ => exact iff_of_false nofun nofun
  simp [hasHighRisk, hrank]

theorem exitCode_eq_zero_iff {minScore : Option Int} :
    r.exitCode minScore = 0 ↔ (r.policy = .risk → r.hasHighRisk ≠ true) ∧
      (r.policy ≠ .risk → ∀ limit ∈ minScore, limit ≤ r.overall) := by
  by_cases hrisk : r.policy = .risk
  · simp [exitCode, hrisk]
  · cases minScore with
    | none => simp [exitCode, hrisk]
    | some limit => simp [exitCode, hrisk]

/-- Every file of the second result is one of the first. -/
theorem Match.exists_mem (h : r.Match R r') {x' : FileResult} (hx' : x' ∈ r'.files) :
    ∃ x ∈ r.files, R x x' := by
  have hpath : x'.path ∈ r.files.map (·.path) := h.paths.mem_iff.mp (List.mem_map_of_mem hx')
  obtain ⟨x, hx, hxx'⟩ := List.mem_map.mp hpath
  exact ⟨x, hx, h.verdicts x hx x' hx' hxx'.symm⟩

/-- Under the policy of scores only the mean score counts. -/
theorem exitCode_eq_of_score (hpolicy : r.policy = .score) (hpolicy' : r'.policy = .score)
    (hoverall : r'.overall = r.overall) (minScore : Option Int) :
    r'.exitCode minScore = r.exitCode minScore := by
  cases minScore with
  | none => simp [exitCode, hpolicy, hpolicy']
  | some limit => simp [exitCode, hpolicy, hpolicy', hoverall]

/-- **No new failure.** Where no level and no mean score gets worse, neither does the exit
code. -/
theorem Match.exitCode_eq_zero (h : r.Match R r')
    (hlevel : ∀ x x', R x x' → x.risk.level.rank ≤ x'.risk.level.rank)
    (hpolicy : r'.policy = r.policy) (hoverall : r.overall ≤ r'.overall) {minScore : Option Int}
    (hzero : r.exitCode minScore = 0) : r'.exitCode minScore = 0 := by
  rw [exitCode_eq_zero_iff] at hzero ⊢
  rw [hpolicy]
  obtain ⟨hrisk, hscore⟩ := hzero
  refine ⟨fun hp hhigh => hrisk hp ?_, fun hp limit hlimit => ?_⟩
  · obtain ⟨x', hx', hrank⟩ := hasHighRisk_iff.mp hhigh
    obtain ⟨x, hx, hR⟩ := h.exists_mem hx'
    exact hasHighRisk_iff.mpr ⟨x, hx, Nat.le_zero.mp (hrank ▸ hlevel x x' hR)⟩
  · exact Int.le_trans (hscore hp limit hlimit) hoverall

end AnalysisResult

namespace Engine

/-- **A second run, verdict by verdict.** Where two runs find the same files, and every graph and
every verdict of the first run is matched in the second, the second has a result if the first has
one, made from matching verdicts. -/
theorem exists_matched_run (e e' : Engine) {w w' : Workspace} (hw : w.WellNamed)
    {name policyName : String} {found : ScanTarget} {r : AnalysisResult}
    {R : FileResult → FileResult → Prop}
    (hscan : w.scan e.settings name = .ok found) (hscan' : w'.scan e'.settings name = .ok found)
    (hverdicts : ∀ g, e.graph w {} found.projectRoot = .ok g →
      ∃ g', e'.graph w' {} found.projectRoot = .ok g' ∧
        ∀ file ∈ found.files, ∀ x, w.verdict found g file = .ok x →
          ∃ x', w'.verdict found g' file = .ok x' ∧ R x x')
    (hr : (e.run w {} name policyName).outcome.result = .ok r) :
    ∃ rs rs', Matched R rs rs' ∧
      r = summarize found.projectRoot (Policy.ofName policyName) rs ∧
      (e'.run w' {} name policyName).outcome.result =
        .ok (summarize found.projectRoot (Policy.ofName policyName) rs') := by
  have hids := ScanTarget.leadsBack_of_scan hw hscan
  obtain ⟨hknown, found', hfound', hanalyze⟩ := run_eq_ok_iff.mp hr
  obtain rfl := Except.ok.inj (hscan.symm.trans hfound')
  obtain ⟨g, hg, rs, hrs, rfl⟩ := (analyze_eq_ok_iff hids).mp hanalyze
  obtain ⟨g', hg', hall⟩ := hverdicts g hg
  obtain ⟨rs', hR, hrs'⟩ : ∃ rs', List.Forall₂ R rs rs' ∧
      List.Forall₂ (fun file x' => w'.verdict found g' file = .ok x') found.files rs' := by
    have hboth : ∀ file ∈ found.files, ∀ x, w.verdict found g file = .ok x →
        ∃ x', R x x' ∧ w'.verdict found g' file = .ok x' := by
      intro file hfile x hx
      obtain ⟨x', hx', hR⟩ := hall file hfile x hx
      exact ⟨x', hR, hx'⟩
    exact exists_forall₂_of_forall₂ hrs hboth
  refine ⟨rs, rs', ⟨hR, ?_, ?_⟩, rfl, run_eq_ok_iff.mpr ⟨hknown, found, hscan', ?_⟩⟩
  · rw [Workspace.map_path_of_verdicts hrs, Workspace.map_path_of_verdicts hrs']
  · rw [Workspace.map_path_of_verdicts hrs]
    exact ScanTarget.fileIds_nodup hw hscan
  · exact (analyze_eq_ok_iff hids).mpr ⟨g', hg', rs', hrs', rfl⟩

end Engine

end Preflight
