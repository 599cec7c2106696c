import Preflight.Proofs.Report.Color

/-!
# Reports on some of the files

A limit leaves files out of a report. What the report says of all files together, such as their
numbers by level, the score of the project, the summary and what to do next, is said of the whole
result and not of the files that are shown.

## Main definitions

* `AnalysisResult.first`, `AnalysisResult.shownFiles`: what is shown under a limit.
* `PayloadShows`, `ReportShows`: a report that shows some files of a result.
* `FileResult.NamedBy`: what is shown of a file starts with its name.

## Main results

* `AnalysisResult.limited_eq_first`: a limit only cuts files.
* `AnalysisResult.payloadShows_first`, `AnalysisResult.reportShows_first`: a report on the first
  files shows these, and says of all files what the result says.
* `FileResult.namedBy_path`: every form of a report names its files.
-/

namespace Preflight

/-! ### Limits -/

namespace AnalysisResult

/-- The result with only its first files. -/
def first (r : AnalysisResult) (n : Nat) : AnalysisResult := { r with files := r.files.take n }

/-- The number of files that are shown under a limit. -/
def shownFiles (r : AnalysisResult) : Option Int → Nat
  | none => r.files.length
  | some top => if r.isCutBy top then top.toNat else r.files.length

variable (r : AnalysisResult)

/-- **A limit only cuts files.** -/
theorem limited_eq_first (top : Option Int) : r.limited top = r.first (r.shownFiles top) := by
  cases top with
  | none => rw [limited, first, shownFiles, List.take_length]
  | some top =>
    rw [limited, shownFiles]
    split
    · rfl
    · rw [first, List.take_length]

/-- As many files are shown as the limit allows. A negative limit is none. -/
theorem shownFiles_some (top : Int) :
    r.shownFiles (some top) = if top < 0 then r.files.length else min top.toNat r.files.length := by
  simp only [shownFiles, isCutBy, Bool.and_eq_true, decide_eq_true_eq]
  split
  · rw [if_neg (by omega)]
    omega
  · split
    · rfl
    · omega

end AnalysisResult

/-! ### What a report shows -/

/-- The members of a report for machines that shows some files of a result: an entry for each of
them, and what the result says of all files. -/
inductive PayloadShows (r : AnalysisResult) (shown : List FileResult) :
    List (String × Json) → Prop where
  | score (hpolicy : r.policy = .score) : PayloadShows r shown
      [("files", .arr (shown.map (·.score.toJson))),
        ("overall", .num r.overall),
        ("recommendations", .strings r.recommendations)]
  | risk (hpolicy : r.policy = .risk) : PayloadShows r shown
      [("files", .arr (shown.map (·.risk.toJson))),
        ("summary", .str r.summary),
        ("counts", .obj [("high", .num (r.counts.number .high)),
          ("medium", .num (r.counts.number .medium)), ("low", .num (r.counts.number .low))]),
        ("action_items", .strings r.recommendations)]

/-- The lines at the end of a document. -/
def nextSteps (recommendations : List String) : List String :=
  if recommendations = [] then []
  else ["", "## Next steps", ""] ++ recommendations.map ("- " ++ ·)

/-- The text of a report that shows some files of a result: lines for each of them, and above and
below these what the result says of all files. -/
inductive ReportShows (r : AnalysisResult) (shown : List FileResult) (explain : Bool)
    (style : Style) : Format → String → Prop where
  | json {members : List (String × Json)} (hmembers : PayloadShows r shown members) :
      ReportShows r shown explain style .json (Json.obj members).text
  | scoreTable (hpolicy : r.policy = .score) :
      ReportShows r shown explain style .table ("\n".intercalate
        ([style.wrap [.bold] "ai-ready" ++ ": codebase scan complete", "", tableHead style] ++
          shown.flatMap (fun x => tableLines style explain x.score) ++
          ["", style.wrap [.bold] ("overall: " ++ toString r.overall ++ "/100") ++ " " ++
            verdict r.overall] ++
          r.recommendations.map ("→ " ++ ·)))
  | briefing (hpolicy : r.policy = .risk) :
      ReportShows r shown explain style .table ("\n".intercalate
        (["", style.wrap [.bold] "ai-ready: pre-session briefing", separatorLine, ""] ++
          shown.flatMap (fun x => briefingBlock style x.risk ++ [""]) ++
          [separatorLine, r.summary] ++ r.recommendations.map ("→ " ++ ·) ++ [""]))
  | scoreDocument (hpolicy : r.policy = .score) :
      ReportShows r shown explain style .markdown (String.join
        ((["# ai-ready report", "", "Project root: " ++ codeSpan r.projectRoot, "",
            "**Overall: " ++ toString r.overall ++ "/100** " ++ verdict r.overall, "",
            "| File | Score | Top issue | Fix |", "|---|---:|---|---|"] ++
          shown.map scoreRow ++ nextSteps r.recommendations).map (· ++ "\n")))
  | riskDocument (hpolicy : r.policy = .risk) :
      ReportShows r shown explain style .markdown (String.join
        ((["# ai-ready report", "", "Project root: " ++ codeSpan r.projectRoot, "", r.summary, "",
            "| File | Risk | Imported by | Untested importers | Briefing |",
            "|---|---|---:|---:|---|"] ++
          shown.map riskRow ++ nextSteps r.recommendations).map (· ++ "\n")))

/-- Numbers that were counted for the levels of an analysis, by the names of the levels. -/
theorem Counts.toJson_eq {counts : Counts}
    (h : counts.entries.map (·.1) = [RiskLevel.high, .medium, .low]) :
    counts.toJson = .obj [("high", .num (counts.number .high)),
      ("medium", .num (counts.number .medium)), ("low", .num (counts.number .low))] := by
  obtain ⟨entries⟩ := counts
  obtain ⟨⟨_, high⟩, _, rfl, rfl, hmedium⟩ := List.map_eq_cons_iff.mp h
  obtain ⟨⟨_, medium⟩, _, rfl, rfl, hlow⟩ := List.map_eq_cons_iff.mp hmedium
  obtain ⟨⟨_, low⟩, _, rfl, rfl, hnone⟩ := List.map_eq_cons_iff.mp hlow
  obtain rfl := List.map_eq_nil_iff.mp hnone
  rfl

namespace AnalysisResult

variable {r : AnalysisResult}

theorem policy_ne_score (hrisk : r.policy = .risk) : r.policy ≠ .score := by
  rw [hrisk]
  decide

/-- **A payload on the first files** says of all files what the result says. -/
theorem payloadShows_first (hknown : r.policy = .score ∨ r.policy = .risk)
    (hcounts : r.counts.entries.map (·.1) = [RiskLevel.high, .medium, .low]) (n : Nat) :
    PayloadShows r (r.files.take n) (r.first n).members := by
  have hpolicy : (r.first n).policy = r.policy := rfl
  rw [members, hpolicy]
  rcases hknown with hscore | hrisk
  · rw [if_pos hscore]
    exact .score hscore
  · rw [if_neg (policy_ne_score hrisk)]
    have hjson : (r.first n).counts.toJson = _ := Counts.toJson_eq hcounts
    rw [hjson]
    exact .risk hrisk

/-- **A report on the first files**, in every form, says of all files what the result says. -/
theorem reportShows_first (hknown : r.policy = .score ∨ r.policy = .risk)
    (hcounts : r.counts.entries.map (·.1) = [RiskLevel.high, .medium, .low]) (n : Nat)
    (format : Format) (explain color : Bool) :
    ReportShows r (r.files.take n) explain ⟨color⟩ format
      (render (r.first n) format explain color) := by
  have hpolicy : (r.first n).policy = r.policy := rfl
  cases format with
  | json => exact .json (payloadShows_first hknown hcounts n)
  | table =>
    rw [render, hpolicy]
    rcases hknown with hscore | hrisk
    · rw [if_pos hscore]
      exact .scoreTable hscore
    · rw [if_neg (policy_ne_score hrisk)]
      exact .briefing hrisk
  | markdown =>
    have hsteps : (if (r.first n).recommendations.isEmpty then []
        else ["", "## Next steps", ""] ++
          (r.first n).recommendations.map fun item => "- " ++ item) =
        nextSteps r.recommendations := by
      simp only [nextSteps, first, List.isEmpty_iff]
    rw [render, markdownReport, markdownLines, hsteps, hpolicy]
    rcases hknown with hscore | hrisk
    · rw [if_pos hscore]
      exact .scoreDocument hscore
    · rw [if_neg (policy_ne_score hrisk)]
      exact .riskDocument hrisk

end AnalysisResult

/-! ### What is shown of a file -/

/-- Every form of a report starts what it shows of a file with a name. -/
structure FileResult.NamedBy (x : FileResult) (name : FileId) : Prop where
  scoreEntry : ∃ more,
    x.score.toJson = .obj (("path", .str name) :: ("score", .num x.score.score) :: more)
  riskEntry : ∃ more,
    x.risk.toJson = .obj (("file", .str name) :: ("risk_level", .str x.risk.level.name) :: more)
  tableRow : ∀ style explain, ∃ rest more, tableLines style explain x.score = (name ++ rest) :: more
  briefing : ∀ style, ∃ rest more, briefingBlock style x.risk = (name ++ rest) :: more
  scoreRow : ∃ more, Preflight.scoreRow x = tableCells (codeSpan name :: more)
  riskRow : ∃ more, Preflight.riskRow x = tableCells (codeSpan name :: more)

/-- **What is shown of a file starts with its name.** -/
theorem FileResult.namedBy_path {x : FileResult} (hscore : x.score.path = x.path)
    (hrisk : x.risk.file = x.path) : x.NamedBy x.path where
  scoreEntry := ⟨_, by rw [← hscore]; rfl⟩
  riskEntry := ⟨_, by rw [← hrisk]; rfl⟩
  tableRow := by
    intro style explain
    obtain ⟨rest, hrow⟩ : ∃ rest, Preflight.tableRow style x.score = x.path ++ rest := by
      rw [tableRow_eq, padRight, hscore]
      exact ⟨_, by simp only [String.append_assoc]; rfl⟩
    exact ⟨rest, _, by rw [tableLines, hrow]⟩
  briefing := by
    intro style
    rw [← hrisk, briefingBlock]
    exact ⟨_, _, by simp only [List.cons_append, String.append_assoc]; rfl⟩
  scoreRow := ⟨_, rfl⟩
  riskRow := ⟨_, by rw [← hrisk]; rfl⟩

end Preflight
