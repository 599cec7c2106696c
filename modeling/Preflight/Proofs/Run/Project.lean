import Preflight.CommandLine.Session
import Preflight.Proofs.Log.Results
import Preflight.Service

/-!
# The report for a path, at the command line and from the service

Both the command line and the service first find the settings of the project that a path belongs
to and then make a run with them. Where that gives a report, both pass it on.

## Main results

* `Workspace.runProject_eq_ok_iff`: when there is a report for a path, and which.
* `CommandLine.performScan_of_runProject`, `Workspace.respondReport_of_runProject`: a report is
  passed on.
* `Workspace.respondReport_of_error`: so is what is in the way of one, by the service.
-/

namespace Preflight

variable {w : Workspace} {path : String} {policy : Option String} {run : ProjectRun}

namespace Workspace

/-- When there is a report for a path, and which. -/
theorem runProject_eq_ok_iff :
    (w.runProject path policy).result = .ok run ↔
      ∃ target, w.existingPath path = .ok target ∧ w.settingsFor target = .ok run.config ∧
        ((Engine.ofConfig run.config).run w {} target.text
          ((policy.filter (· ≠ "")).getD run.config.policy.name)).outcome.result =
          .ok run.result := by
  rw [runProject, Logged.result_bind, Logged.result_ofExcept, bind_eq_ok_iff]
  refine exists_congr fun target => and_congr_right fun _ => ?_
  rw [Logged.result_bind, Logged.result_ofExcept, bind_eq_ok_iff]
  constructor
  · rintro ⟨config, hconfig, h⟩
    rw [Logged.result_bind, bind_eq_ok_iff] at h
    obtain ⟨result, hresult, hrun⟩ := h
    obtain rfl := Except.ok.inj hrun
    exact ⟨hconfig, mapError_eq_ok_iff.mp hresult⟩
  · rintro ⟨hconfig, hresult⟩
    refine ⟨run.config, hconfig, ?_⟩
    rw [Logged.result_bind, bind_eq_ok_iff]
    exact ⟨run.result, mapError_eq_ok_iff.mpr hresult, rfl⟩

/-- The service answers with the report. -/
theorem respondReport_of_runProject {body : Option Posted} {request : ReportRequest}
    (hbody : ReportRequest.ofBody? body = some request)
    (h : (w.runProject request.path request.policy).result = .ok run) :
    w.respondReport body = request.report run := by
  rw [respondReport, hbody]
  dsimp only
  rw [h]

/-- The service answers what is in the way of a run. -/
theorem respondReport_of_error {body : Option Posted} {request : ReportRequest}
    {error : ProjectError} (hbody : ReportRequest.ofBody? body = some request)
    (h : (w.runProject request.path request.policy).result = .error error) :
    w.respondReport body = request.refusal error := by
  rw [respondReport, hbody]
  dsimp only
  rw [h]

/-- There is no run where nothing is at the path. -/
theorem runProject_of_notFound {target : Path} (policy : Option String)
    (h : w.existingPath path = .error (.notFound target)) :
    w.runProject path policy = .fail (.notFound target) := by
  rw [runProject, h]
  rfl

end Workspace

namespace CommandLine

/-- The command line ends with the report. -/
theorem performScan_of_runProject {request : ScanRequest} (terminal : Bool)
    (h : (w.runProject request.path request.policy).result = .ok run) :
    (performScan w terminal request).result =
      .ok (scanEnd request terminal (shownPath w request.path) run) := by
  refine Logged.result_recover_ok ?_ refusal
  rw [reportedScan, Logged.result_bind, h]
  rfl

end CommandLine

end Preflight
