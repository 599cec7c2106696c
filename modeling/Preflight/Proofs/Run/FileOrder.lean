import Mathlib.Data.List.Perm.Basic
import Preflight.Proofs.Run.Summary
import Preflight.Proofs.Run.Verdict

/-!
# Results do not depend on the order of files

The files of a scan may come in any order. There is a verdict on each of them by itself, the ids
of different files are different, and what is said about all files together does not depend on
the order of the verdicts.

## Main results

* `Engine.analyze_eq_ok_iff_of_perm`: a run on the files of another target in any order.
* `file_order_irrelevant`: a run has the result that it has on the files in any order.
-/

namespace Preflight

namespace Engine

variable {e : Engine} {w : Workspace} {cache : GraphCache} {policy : Policy}
  {t₁ t₂ : ScanTarget} {r : AnalysisResult}

theorem analyze_of_perm (hroot : t₁.projectRoot = t₂.projectRoot)
    (hfiles : t₁.files.Perm t₂.files) (hids : t₂.LeadsBack)
    (hnodup : (t₂.files.map t₂.fileId).Nodup)
    (h : (e.analyze w cache t₂ policy).outcome.result = .ok r) :
    (e.analyze w cache t₁ policy).outcome.result = .ok r := by
  obtain ⟨g, hg, rs₂, hrs₂, rfl⟩ := (analyze_eq_ok_iff hids).mp h
  -- the verdicts on the files in one order are those in the other, put in that order
  obtain ⟨rs₁, hrs₁, hperm⟩ := List.perm_comp_forall₂ hfiles hrs₂
  have hpaths : (rs₁.map (·.path)).Nodup := by
    rw [(hperm.map _).nodup_iff, Workspace.map_path_of_verdicts hrs₂]
    exact hnodup
  have hlevels : ∀ x ∈ rs₁, x.risk.level ∈ RiskLevel.all := by
    intro x hx
    obtain ⟨file, -, hverdict⟩ := exists_mem_of_forall₂ hrs₁ hx
    exact (Workspace.verdict_ok hverdict).2
  rw [analyze_eq_ok_iff (hids.of_perm hroot hfiles), Workspace.verdict_congr hroot, hroot]
  exact ⟨g, hg, rs₁, hrs₁, summarize_eq_of_perm _ _ hperm hpaths hlevels⟩

/-- A run on the files of another target, in any order, has the result of the run on it. -/
theorem analyze_eq_ok_iff_of_perm (hroot : t₁.projectRoot = t₂.projectRoot)
    (hfiles : t₁.files.Perm t₂.files) (hids : t₂.LeadsBack)
    (hnodup : (t₂.files.map t₂.fileId).Nodup) :
    (e.analyze w cache t₁ policy).outcome.result = .ok r ↔
      (e.analyze w cache t₂ policy).outcome.result = .ok r := by
  have hnodup₁ : (t₁.files.map t₁.fileId).Nodup := by
    rw [ScanTarget.fileId_congr hroot, (hfiles.map _).nodup_iff]
    exact hnodup
  exact ⟨analyze_of_perm hroot.symm hfiles.symm (hids.of_perm hroot hfiles) hnodup₁,
    analyze_of_perm hroot hfiles hids hnodup⟩

end Engine

/-- **Results do not depend on the order of files.** A run has a result exactly when the run on
the files of its scan, in any order, has it. -/
theorem file_order_irrelevant {e : Engine} {w : Workspace} (hw : w.WellNamed) {cache : GraphCache}
    {name policyName : String} {found : ScanTarget} (h : w.scan e.settings name = .ok found)
    {files : List Path} (hfiles : files.Perm found.files) (r : AnalysisResult) :
    (e.run w cache name policyName).outcome.result = .ok r ↔
      (Policy.ofName policyName).isKnown = true ∧
        (e.analyze w cache { found with files } (Policy.ofName policyName)).outcome.result =
          .ok r := by
  have hids := ScanTarget.leadsBack_of_scan hw h
  have hnodup := ScanTarget.fileIds_nodup hw h
  have hsame : (e.analyze w cache { found with files } (Policy.ofName policyName)).outcome.result =
        .ok r ↔ (e.analyze w cache found (Policy.ofName policyName)).outcome.result = .ok r :=
    Engine.analyze_eq_ok_iff_of_perm rfl hfiles hids hnodup
  rw [Engine.run_eq_ok_iff, hsame]
  refine and_congr_right fun _ => ?_
  constructor
  · rintro ⟨found', hfound', hr⟩
    obtain rfl := Except.ok.inj (h.symm.trans hfound')
    exact hr
  · intro hr
    exact ⟨found, h, hr⟩

/-- The files of a project, the last one first. -/
theorem file_order_irrelevant_twoFiles :
    ∃ r, (twoFilesEngine.run twoFiles {} "/p" "risk").outcome.result = .ok r ∧
      (twoFilesEngine.analyze twoFiles {}
        { twoFilesFound with files := [⟨.top, ["p", "b.ts"]⟩, ⟨.top, ["p", "a.ts"]⟩] }
        .risk).outcome.result = .ok r := by
  obtain ⟨r, hr⟩ := exists_analyze_twoFiles .risk
  replace hr : (twoFilesEngine.run twoFiles {} "/p" "risk").outcome.result = .ok r :=
    Engine.run_eq_ok_iff.mpr ⟨by decide, _, scan_twoFiles, hr⟩
  have hswap : [(⟨.top, ["p", "b.ts"]⟩ : Path), ⟨.top, ["p", "a.ts"]⟩].Perm twoFilesFound.files :=
    List.Perm.swap _ _ _
  exact ⟨r, hr, ((file_order_irrelevant wellNamed_twoFiles scan_twoFiles hswap r).mp hr).2⟩

end Preflight
