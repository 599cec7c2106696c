import Preflight.Proofs.CommandLine.Arguments
import Preflight.Proofs.Report.Json
import Preflight.Proofs.Run.SettingsProject

/-!
# One report, at the command line and from the service

The command line and the service read what is asked of them on their own, and find the number of
files to be shown and the status by themselves. A session that is asked for JSON prints a report
exactly where the service answers with it, member by member, and the status of the one is in the
answer of the other. Where there is nothing to report on, or the configuration is wrong, both say
the same.

## Main definitions

* `reportRequest`: the request to the service. The arguments of the session are
  `CommandLine.reportArguments`.
* `ReportShown`: a report for a path, as it is shown.

## Main results

* `respond_eq_report_iff`, `CommandLine.exists_session_iff`: when the service answers with a report,
  and when a session prints one.
* `CommandLine.refused_alike`: what both say before a run.
* `report_agrees`: what the two entries have in common.
* `refused_by_command_line`: where they differ.
-/

namespace Preflight

variable {w : Workspace} {path : String} {policy : Option Policy} {top : Option Nat}
  {members : List (String × Json)} {exit : Nat}

/-! ### What is asked for -/

/-- The members of the body of a request for a report. -/
def reportMembers (path : String) (policy : Option Policy) (top : Option Nat) :
    List (String × Posted) :=
  ("path", .text path) ::
    ((policy.elim [] fun p => [("policy", .text p.name)]) ++
      top.elim [] fun n => [("top", .whole n)])

/-- The request for a report to the service. -/
def reportRequest (path : String) (policy : Option Policy) (top : Option Nat) : Request :=
  ⟨"POST", "/scan", some (.fields (reportMembers path policy top))⟩

/-- A number that is not negative is too long when its text is. -/
theorem isLong_natCast (n : Nat) :
    Yaml.Value.isLong n = decide (Text.digitLimit < (toString n).length) := by
  have hlimit (k : Nat) (hk : 0 < k) : Nat.pow 10 k ≤ n ↔ k < (Nat.toDigits 10 n).length := by
    rw [← Nat.not_le, Nat.length_toDigits_le_iff (by decide) hk, Nat.not_lt]
    rfl
  rw [Yaml.Value.isLong, Text.length_toString, Int.natAbs_natCast]
  exact decide_eq_decide.mpr (hlimit _ (by decide))

theorem anyLong_reportMembers :
    Posted.anyLong (reportMembers path policy top) = top.any fun n => Yaml.Value.isLong n := by
  cases policy <;> cases top <;> simp [reportMembers, Posted.anyLong, Posted.hasLong]

theorem policyOf?_reportMembers :
    ReportRequest.policyOf? (reportMembers path policy top) = some (policy.map (·.name)) := by
  cases policy with
  | none => cases top <;> rfl
  | some p => rfl

theorem topOf?_reportMembers :
    ReportRequest.topOf? (reportMembers path policy top) = some (top.map (↑)) := by
  cases top with
  | none => cases policy <;> rfl
  | some n =>
    have hmember : ReportRequest.member? (reportMembers path policy (some n)) "top" =
        some (.whole n) := by
      cases policy <;> rfl
    rw [ReportRequest.topOf?, hmember]
    simp [limitOf?]

/-- What such members ask for. -/
def reportWanted (path : String) (policy : Option Policy) (top : Option Nat) : ReportRequest :=
  { path, policy := policy.map (·.name), top := top.map (↑) }

theorem ofBody?_reportMembers (path : String) (policy : Option Policy) (top : Option Nat) :
    ReportRequest.ofBody? (some (.fields (reportMembers path policy top))) =
      if ∀ n ∈ top, (toString n).length ≤ Text.digitLimit then
        some (reportWanted path policy top)
      else none := by
  have hlong : Posted.anyLong (reportMembers path policy top) = true ↔
      ¬∀ n ∈ top, (toString n).length ≤ Text.digitLimit := by
    rw [anyLong_reportMembers]
    cases top with
    | none => simp
    | some n => simp [isLong_natCast]
  rw [ReportRequest.ofBody?]
  by_cases h : ∀ n ∈ top, (toString n).length ≤ Text.digitLimit
  · rw [if_pos h, if_neg (fun hany => hlong.mp hany h)]
    rw [policyOf?_reportMembers, topOf?_reportMembers]
    rfl
  · rw [if_neg h, if_pos (hlong.mpr h)]

theorem respond_reportRequest (w : Workspace) :
    w.respond (reportRequest path policy top) =
      w.respondReport (some (.fields (reportMembers path policy top))) := by
  have hroute : routeOf "/scan" = "/scan" := by decide
  rw [Workspace.respond, reportRequest, hroute]
  rfl

/-! ### What is answered -/

/-- A report for a path, as it is shown: its members, and the status it ends with. -/
def ReportShown (w : Workspace) (path : String) (policy : Option Policy) (top : Option Nat)
    (members : List (String × Json)) (exit : Nat) : Prop :=
  (∀ n ∈ top, (toString n).length ≤ Text.digitLimit) ∧
    ∃ run, (w.runProject path (policy.map (·.name))).result = .ok run ∧
      (run.result.limited ((top.map (↑)).orElse fun _ => run.config.top)).members = members ∧
      run.result.exitCode run.config.minScore = exit

theorem status_refusal (request : ReportRequest) (error : ProjectError) :
    (request.refusal error).status ≠ 200 := by
  have h400 : 400 ≠ 200 := by decide
  have h404 : 404 ≠ 200 := by decide
  have h500 : 500 ≠ 200 := by decide
  cases error with
  | notFound target => exact h404
  | path error => exact h500
  | file fault => exact h500
  | config failure =>
    cases failure with
    | config e => exact h400
    | decode e => exact h400
    | path e => exact h500
    | scalar f =>
      rw [ReportRequest.refusal, faultResponse]
      split
      · exact h400
      · exact h500
  | run error =>
    change (runErrorResponse error).status ≠ 200
    unfold runErrorResponse
    split
    · exact h400
    · exact h404
    · exact h400
    · exact h400
    · exact h500

theorem status_bodyRefusal (body : Option Posted) : (bodyRefusal body).status ≠ 200 := by
  unfold bodyRefusal
  split
  · decide
  · decide

/-- **The service answers with a report** when there is one, and the number of files can be read. -/
theorem respond_eq_report_iff :
    w.respond (reportRequest path policy top) =
        ⟨200, some (.obj (members ++ [("exit_code", .num exit)]))⟩ ↔
      ReportShown w path policy top members exit := by
  rw [respond_reportRequest, ReportShown]
  by_cases htop : ∀ n ∈ top, (toString n).length ≤ Text.digitLimit
  · have hbody := ofBody?_reportMembers path policy top
    rw [if_pos htop] at hbody
    cases hrun : (w.runProject path (policy.map (·.name))).result with
    | error error =>
      refine iff_of_false (fun h => ?_) (fun h => ?_)
      · rw [Workspace.respondReport_of_error hbody hrun] at h
        exact status_refusal _ error (congrArg Response.status h)
      · obtain ⟨-, run, hok, -⟩ := h
        cases hok
    | ok run =>
      rw [Workspace.respondReport_of_runProject hbody hrun, ReportRequest.report]
      constructor
      · intro h
        obtain ⟨-, hbody⟩ := Response.mk.inj h
        obtain ⟨hmembers, hexit⟩ :=
          List.append_inj' (Json.obj.inj (Option.some.inj hbody)) rfl
        refine ⟨htop, run, rfl, hmembers, ?_⟩
        have hnumber := Json.num.inj (congrArg Prod.snd (List.cons.inj hexit).1)
        exact Int.ofNat.inj hnumber
      · rintro ⟨-, run', hok, rfl, rfl⟩
        obtain rfl := Except.ok.inj hok
        rfl
  · have hbody := ofBody?_reportMembers path policy top
    rw [if_neg htop] at hbody
    refine iff_of_false (fun h => ?_) (fun h => htop h.1)
    rw [Workspace.respondReport, hbody] at h
    exact status_bodyRefusal _ (congrArg Response.status h)

namespace CommandLine

variable {terminal : Bool} {time : String}

/-! ### What is printed -/

/-- A scan for a program ends with the report as JSON. -/
theorem scanEnd_json {request : ScanRequest} (hjson : request.json = true)
    (hminScore : request.minScore = none) (terminal : Bool) (target : Path) (run : ProjectRun) :
    scanEnd request terminal target run =
      { exit := run.result.exitCode run.config.minScore
        output :=
          (Json.obj
            (run.result.limited (request.top.orElse fun _ => run.config.top)).members).text ++
              "\n" } := by
  have hformat : request.formatFor run.config = .json := if_pos hjson
  rw [scanEnd, hformat, hminScore]
  dsimp only
  rw [if_neg (by simp)]
  rfl

/-- Where there is no report nothing is printed. -/
theorem output_refusal {error : ProjectError} {done : End} (h : (refusal error).result = .ok done) :
    done.output = "" := by
  cases error with
  | notFound target =>
    obtain rfl := Except.ok.inj h
    rfl
  | path error => cases h
  | file fault => cases h
  | config failure =>
    cases failure with
    | config e =>
      obtain rfl := Except.ok.inj h
      rfl
    | decode e => cases h
    | path e => cases h
    | scalar f => cases h
  | run error =>
    change (runRefusal error).result = .ok done at h
    unfold runRefusal at h
    split at h
    · obtain rfl := Except.ok.inj h
      rfl
    · obtain rfl := Except.ok.inj h
      rfl

/-- The setup of the log for those who do not ask for more. -/
def quietSetup : LogSetup := .ofHandlers [LogSetup.consoleHandler false]

theorem line_ne_empty (s : String) : s ++ "\n" ≠ "" := by
  intro h
  have := congrArg String.length h
  rw [String.length_append] at this
  exact absurd this (Nat.succ_ne_zero _)

theorem line_injective : Function.Injective (· ++ "\n" : String → String) := by
  intro s t h
  have hchars := congrArg String.toList h
  rw [String.toList_append, String.toList_append] at hchars
  exact String.toList_inj.mp (List.append_cancel_right hchars)

/-- A session for a report: what comes of the scan. -/
theorem session_reportArguments (hpath : TakenAsPath path)
    (hpolicy : ∀ p ∈ policy, p ∈ Policy.all)
    (htop : ∀ n ∈ top, (toString n).length ≤ Text.digitLimit) {scanned : Logged Abort End}
    (hscanned : performScan w terminal (reportScan path policy top) = scanned) (time : String) :
    session w time terminal (reportArguments path policy top) =
      scanned.result.map fun done =>
        ⟨done.exit, done.output, quietSetup.consoleText scanned.records ++ done.message,
          done.served, quietSetup.write time scanned.records w⟩ := by
  rw [session, readArguments_reportArguments hpath hpolicy htop, ← hscanned]
  rfl

/-- **A session prints a report** when there is one, and the number of files can be read. -/
theorem exists_session_iff (hpath : TakenAsPath path) (hpolicy : ∀ p ∈ policy, p ∈ Policy.all)
    (time : String) (terminal : Bool) :
    (∃ s, session w time terminal (reportArguments path policy top) = .ok s ∧ s.exit = exit ∧
        s.output = (Json.obj members).text ++ "\n") ↔
      ReportShown w path policy top members exit := by
  by_cases htop : ∀ n ∈ top, (toString n).length ≤ Text.digitLimit
  · rw [session_reportArguments hpath hpolicy htop rfl]
    cases hrun : (w.runProject path (policy.map (·.name))).result with
    | error error =>
      refine iff_of_false (fun h => ?_) (fun h => ?_)
      · obtain ⟨s, hs, -, houtput⟩ := h
        obtain ⟨done, hdone, rfl⟩ := map_eq_ok_iff.mp hs
        have hscan : (performScan w terminal (reportScan path policy top)).result =
            (refusal error).result := by
          refine Logged.result_recover_error ?_ refusal
          rw [reportedScan, Logged.result_bind, reportScan, hrun]
          rfl
        exact line_ne_empty _ (houtput.symm.trans (output_refusal (hscan.symm.trans hdone)))
      · obtain ⟨-, run, hok, -⟩ := h
        cases hrun.symm.trans hok
    | ok run =>
      have hscan : (performScan w terminal (reportScan path policy top)).result = _ :=
        performScan_of_runProject terminal hrun
      rw [hscan, scanEnd_json rfl rfl]
      constructor
      · rintro ⟨s, hs, rfl, houtput⟩
        obtain rfl := Except.ok.inj hs
        have hmembers := Json.obj.inj (Json.text_injective (line_injective houtput))
        exact ⟨htop, run, hrun, hmembers, rfl⟩
      · rintro ⟨-, run', hok, rfl, rfl⟩
        obtain rfl := Except.ok.inj (hrun.symm.trans hok)
        exact ⟨_, rfl, rfl, rfl⟩
  · refine iff_of_false (fun h => ?_) (fun h => htop h.1)
    obtain ⟨s, hs, -, houtput⟩ := h
    obtain ⟨n, rfl, hlong⟩ : ∃ n, top = some n ∧ Text.digitLimit < (toString n).length := by
      simpa using htop
    obtain ⟨program, message, hstop⟩ := readArguments_of_long hpath hpolicy hlong
    rw [session, hstop] at hs
    obtain rfl := Except.ok.inj hs
    exact line_ne_empty _ houtput.symm

/-! ### What is refused -/

theorem ofExcept_ok_bind {ε α β : Type} (a : α) (f : α → Logged ε β) :
    Logged.ofExcept (.ok a) >>= f = f a := rfl

theorem ofExcept_error_bind {ε α β : Type} (e : ε) (f : α → Logged ε β) :
    Logged.ofExcept (.error e) >>= f = .fail e := rfl

/-- A scan that ends before its run says why, and leaves no record. -/
theorem performScan_of_fail {error : ProjectError} (request : ScanRequest) (terminal : Bool)
    (h : w.runProject request.path request.policy = .fail error) :
    performScan w terminal request = refusal error := by
  rw [performScan, reportedScan, h]
  rfl

/-- Both entries say why there is no report. -/
theorem refused_alike (hpath : TakenAsPath path) (hpolicy : ∀ p ∈ policy, p ∈ Policy.all)
    (htop : ∀ n ∈ top, (toString n).length ≤ Text.digitLimit) (time : String) (terminal : Bool)
    {error : ProjectError} (h : w.runProject path (policy.map (·.name)) = .fail error)
    {message : String} (hrefusal : refusal error = pure { exit := 1, message }) :
    (∃ s, session w time terminal (reportArguments path policy top) = .ok s ∧ s.exit = 1 ∧
        s.output = "" ∧ s.errors = message) ∧
      w.respond (reportRequest path policy top) =
        (reportWanted path policy top).refusal error := by
  have hscan : performScan w terminal (reportScan path policy top) =
      pure { exit := 1, message } := by
    rw [performScan_of_fail (reportScan path policy top) terminal h, hrefusal]
  have hsession := session_reportArguments hpath hpolicy htop hscan time
  have hrecords : (pure { exit := 1, message } : Logged Abort End).records = [] := rfl
  rw [Logged.result_pure, hrecords] at hsession
  have hbody := ofBody?_reportMembers path policy top
  rw [if_pos htop] at hbody
  have hconsole : quietSetup.consoleText [] ++ message = message := String.empty_append
  refine ⟨⟨_, hsession, rfl, rfl, hconsole⟩, ?_⟩
  rw [respond_reportRequest]
  exact Workspace.respondReport_of_error hbody (congrArg Logged.result h)

end CommandLine

open CommandLine in
/-- **One report, at the command line and from the service.** For a path that the command line does
not take for an option, and with the same policy and number of files:

* a session prints a report and ends with a status exactly where the service answers with that
  report and that status;
* where nothing is at the path, a session ends with one and the service answers that it was not
  found;
* where the configuration of the project is wrong, a session ends with one and the service answers
  that the request is bad, and both say the same about it.

The last two presume that the number of files is not too long to be read. -/
theorem report_agrees (w : Workspace) (time : String) (terminal : Bool) (hpath : TakenAsPath path)
    (hpolicy : ∀ p ∈ policy, p ∈ Policy.all) :
    (∀ members exit,
      (∃ s, session w time terminal (reportArguments path policy top) = .ok s ∧ s.exit = exit ∧
          s.output = (Json.obj members).text ++ "\n") ↔
        w.respond (reportRequest path policy top) =
          ⟨200, some (.obj (members ++ [("exit_code", .num exit)]))⟩) ∧
    ∀ target, w.expandHome (Path.ofString path) = .ok target →
      (∀ n ∈ top, (toString n).length ≤ Text.digitLimit) →
      (w.exists? target = .ok false →
        (∃ s, session w time terminal (reportArguments path policy top) = .ok s ∧ s.exit = 1 ∧
            s.output = "" ∧ s.errors = "error: path not found: " ++ target.text ++ "\n") ∧
          w.respond (reportRequest path policy top) =
            .detail 404 ("path not found: " ++ path)) ∧
      ∀ root e, w.exists? target = .ok true →
        w.findProjectRoot defaultManifests target = .ok root →
        w.loadConfig root = .error (.config e) →
        (∃ s, session w time terminal (reportArguments path policy top) = .ok s ∧ s.exit = 1 ∧
            s.output = "" ∧ s.errors = "error: " ++ e.message ++ "\n") ∧
          w.respond (reportRequest path policy top) = .detail 400 e.message := by
  refine ⟨fun members exit => (exists_session_iff hpath hpolicy time terminal).trans
    respond_eq_report_iff.symm, fun target htarget htop => ⟨fun hmissing => ?_, ?_⟩⟩
  · have hnotFound : w.existingPath path = .error (.notFound target) := by
      rw [Workspace.existingPath, htarget]
      dsimp only
      rw [hmissing]
    exact refused_alike hpath hpolicy htop time terminal
      (Workspace.runProject_of_notFound _ hnotFound) rfl
  · intro root e hthere hroot hload
    have hexisting : w.existingPath path = .ok target :=
      Workspace.existingPath_eq_ok_iff.mpr ⟨htarget, hthere⟩
    have hsettings : w.settingsFor target = .error (.config (.config e)) := by
      rw [Workspace.settingsFor, hroot]
      dsimp only
      rw [hload]
      rfl
    have hfail : w.runProject path (policy.map (·.name)) = .fail (.config (.config e)) := by
      rw [Workspace.runProject, hexisting, ofExcept_ok_bind, hsettings, ofExcept_error_bind]
    exact refused_alike hpath hpolicy htop time terminal hfail rfl

open CommandLine in
/-- A report, a path with nothing at it, and a configuration that is no mapping. -/
theorem report_agrees_nestedProject :
    (∃ r, (nestedProject.runProject "/p/sub" none).result = .ok ⟨outerSettings, r⟩ ∧
      (∃ s, session nestedProject "" false (reportArguments "/p/sub" none (some 3)) = .ok s ∧
        s.exit = r.exitCode none ∧
        s.output = (Json.obj (r.limited (some 3)).members).text ++ "\n") ∧
      nestedProject.respond (reportRequest "/p/sub" none (some 3)) =
        ⟨200, some (.obj ((r.limited (some 3)).members ++
          [("exit_code", .num (r.exitCode none))]))⟩) ∧
    ((∃ s, session nestedProject "" false (reportArguments "/q" (some .score) none) = .ok s ∧
        s.exit = 1 ∧ s.output = "" ∧ s.errors = "error: path not found: /q\n") ∧
      nestedProject.respond (reportRequest "/q" (some .score) none) =
        .detail 404 "path not found: /q") ∧
    (∃ s, session (configuredProject [0x78]) "" false (reportArguments "/p" none none) = .ok s ∧
      s.exit = 1 ∧ s.output = "" ∧
      s.errors = "error: " ++ ConfigError.notMapping.message ++ "\n") ∧
    (configuredProject [0x78]).respond (reportRequest "/p" none none) =
      .detail 400 ConfigError.notMapping.message := by
  have hnone : ∀ p ∈ (none : Option Policy), p ∈ Policy.all := by simp
  have hscore : ∀ p ∈ some Policy.score, p ∈ Policy.all := by decide
  have hall : ∀ n ∈ (none : Option Nat), (toString n).length ≤ Text.digitLimit := by simp
  have hthree : ∀ n ∈ some 3, (toString n).length ≤ Text.digitLimit := by decide
  have hsub : TakenAsPath "/p/sub" := takenAsPath_of_head (by decide)
  have hmissing : TakenAsPath "/q" := takenAsPath_of_head (by decide)
  have hproject : TakenAsPath "/p" := takenAsPath_of_head (by decide)
  refine ⟨?_, ?_, ?_⟩
  · obtain ⟨r, hr, -⟩ := exists_run_nestedProject
    have hanswer : ReportShown nestedProject "/p/sub" none (some 3) (r.limited (some 3)).members
        (r.exitCode none) := ⟨hthree, _, hr, rfl, rfl⟩
    obtain ⟨hreport, -⟩ :=
      @report_agrees "/p/sub" none (some 3) nestedProject "" false hsub hnone
    have hservice := respond_eq_report_iff.mpr hanswer
    exact ⟨r, hr, (hreport _ _).mpr hservice, hservice⟩
  · obtain ⟨-, hrefused⟩ :=
      @report_agrees "/q" (some .score) none nestedProject "" false hmissing hscore
    exact (hrefused ⟨.top, ["q"]⟩ rfl hall).1 rfl
  · obtain ⟨-, hrefused⟩ :=
      @report_agrees "/p" none none (configuredProject [0x78]) "" false hproject hnone
    have hload : (configuredProject [0x78]).loadConfig ⟨.top, ["p"]⟩ =
        .error (.config .notMapping) := by
      decide +kernel
    exact (hrefused ⟨.top, ["p"]⟩ rfl hall).2 ⟨.top, ["p"]⟩ .notMapping rfl rfl hload

open CommandLine in
/-- **Where the two entries differ.** Nothing is at either path, and the service says so of the
first one. A session takes that path for an option that it does not know, and for the other it is
given a number of files that is too long to be read. -/
theorem refused_by_command_line :
    (nestedProject.existingPath "-x" = .error (.notFound ⟨.here, ["-x"]⟩) ∧
      nestedProject.respond (reportRequest "-x" none none) = .detail 404 "path not found: -x" ∧
      ∃ s, session nestedProject "" false (reportArguments "-x" none none) = .ok s ∧ s.exit = 2) ∧
    nestedProject.existingPath "/q" = .error (.notFound ⟨.top, ["q"]⟩) ∧
      ∃ n s, session nestedProject "" false (reportArguments "/q" none (some n)) = .ok s ∧
        s.exit = 2 := by
  have hmissing : nestedProject.existingPath "-x" = .error (.notFound ⟨.here, ["-x"]⟩) := by
    decide +kernel
  refine ⟨⟨hmissing, ?_, ?_⟩, rfl, Nat.pow 10 Text.digitLimit, ?_⟩
  · have hbody := ofBody?_reportMembers "-x" none none
    rw [if_pos (by simp)] at hbody
    have hfail := congrArg Logged.result (Workspace.runProject_of_notFound none hmissing)
    rw [respond_reportRequest, Workspace.respondReport_of_error hbody hfail]
    rfl
  · have hstop : readArguments (reportArguments "-x" none none) =
        .error (.usage "aiready" "unrecognized arguments: -x") := by
      decide +kernel
    rw [session, hstop]
    exact ⟨_, rfl, rfl⟩
  · have hlong : Text.digitLimit < (toString (Nat.pow 10 Text.digitLimit)).length := by
      rw [← decide_eq_true_iff (p := _ < _), ← isLong_natCast, Yaml.Value.isLong,
        Int.natAbs_natCast]
      exact decide_eq_true (Nat.le_refl _)
    have hpath : TakenAsPath "/q" := takenAsPath_of_head (by decide)
    have hpolicy : ∀ p ∈ (none : Option Policy), p ∈ Policy.all := by simp
    obtain ⟨program, message, hstop⟩ := readArguments_of_long hpath hpolicy hlong
    rw [session, hstop]
    exact ⟨_, rfl, rfl⟩

end Preflight
