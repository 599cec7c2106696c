import Preflight.CommandLine.Arguments
import Preflight.Proofs.CommandLine.Options
import Preflight.Proofs.Text.Numeral

/-!
# The command line that asks for a report

A report as JSON is asked for with a path, and with options for the policy and for the number of
files. Such a command line is understood unless the path looks like an option, or the number is too
long to be read.

## Main definitions

* `TakenAsPath`: a path that does not look like an option.
* `reportArguments`: the arguments that ask for a report.

## Main results

* `takenAsPath_of_head`: a path without a dash in front does not look like an option.
* `readArguments_reportArguments`: what such arguments ask for.
* `readArguments_of_long`: a number of files that is too long is refused.
-/

namespace Preflight.CommandLine

/-! ### Options of a command -/

section command

variable {σ α : Type} {g : Grammar (LogRequest × σ)} {r : Grammar.Reading (LogRequest × σ)}
  {s name v : String} {excludes : List String}
  {rest : List (String × ArgumentKind (LogRequest × σ))}

theorem readFrom_commandFlag {set : σ → σ} (hexcludes : excludes.find? r.given.contains = none) :
    g.readFrom r ((s, .option (some (commandFlag name set excludes)) name none) :: rest) =
      g.readFrom
        { r with
          value := (r.value.1, set r.value.2)
          given := (commandFlag name set excludes).title :: r.given } rest :=
  (Grammar.readFrom_flag rfl hexcludes).trans rfl

variable {read : String → Except String α} {set : α → σ → σ}

theorem readFrom_commandValue {a : α} (hread : read v = .ok a)
    (hexcludes : excludes.find? r.given.contains = none) :
    g.readFrom r ((s, .option (some (commandValue name read set excludes)) name none) ::
        (v, .operand) :: rest) =
      g.readFrom
        { r with
          value := (r.value.1, set a r.value.2)
          given := (commandValue name read set excludes).title :: r.given } rest := by
  have hset : ((read v).map fun a (p : LogRequest × σ) => (p.1, set a p.2)) =
      .ok fun p => (p.1, set a p.2) := by
    rw [hread]
    rfl
  exact (Grammar.readFrom_value rfl hset hexcludes).trans rfl

theorem readFrom_commandValue_error {message : String} (hread : read v = .error message) :
    g.readFrom r ((s, .option (some (commandValue name read set excludes)) name none) ::
        (v, .operand) :: rest) =
      g.wrongAt (commandValue name read set excludes).title message := by
  refine Grammar.readFrom_value_error rfl ?_
  rw [hread]
  rfl

end command

/-! ### Names of options -/

/-- What the name of an option is in the command line of a scan. -/
def scanKind (name : String) : ArgumentKind (LogRequest × ScanRequest) :=
  .option (scanGrammar.find? name) name none

theorem classify_scan {name : String} (h : name ∈ ["--json", "--policy", "--top"]) :
    name ≠ "--" ∧ scanGrammar.classify name = .ok (scanKind name) ∧
      ∃ kind, programGrammar.classify name = .ok kind := by
  simp only [List.mem_cons, List.not_mem_nil, or_false] at h
  rcases h with rfl | rfl | rfl
  · exact ⟨by decide, rfl, _, rfl⟩
  · exact ⟨by decide, rfl, _, rfl⟩
  · exact ⟨by decide, rfl, _, rfl⟩

theorem countValue_toString (n : Nat) :
    countValue (toString n) =
      if (toString n).length ≤ Text.digitLimit then .ok (n : Int)
      else .error ("expected an integer, got " ++ Text.quoted (toString n)) := by
  rw [countValue, Text.readInt?_toString]
  by_cases h : (toString n).length ≤ Text.digitLimit
  · rw [if_pos h, if_pos h]
    exact if_neg (Int.not_lt.mpr (Int.natCast_nonneg n))
  · rw [if_neg h, if_neg h]

/-! ### Asking for a report -/

/-- A path that a scan does not take for one of its options. -/
def TakenAsPath (path : String) : Prop := scanGrammar.classify path = .ok .operand

/-- The options after a path that ask for a report under a policy. -/
def policyArguments (policy : Option Policy) : List String :=
  policy.elim [] fun p => ["--policy", p.name]

/-- The options after a path that ask for the first files of a report. -/
def topArguments (top : Option Nat) : List String := top.elim [] fun n => ["--top", toString n]

/-- The arguments that ask for a report as JSON. -/
def reportArguments (path : String) (policy : Option Policy) (top : Option Nat) : List String :=
  "scan" :: path :: "--json" :: (policyArguments policy ++ topArguments top)

/-- The scan that these arguments ask for. -/
def reportScan (path : String) (policy : Option Policy) (top : Option Nat) : ScanRequest :=
  { path, policy := policy.map (·.name), json := true, top := top.map (↑) }

variable {path : String} {policy : Option Policy} {top : Option Nat}

theorem takenAsPath_of_head (h : path.toList.head? ≠ some '-') : TakenAsPath path :=
  Grammar.classify_of_head h

theorem TakenAsPath.ne_separator (h : TakenAsPath path) : path ≠ "--" := by
  rintro rfl
  cases h

/-- The program takes such a path for one option at most. -/
theorem TakenAsPath.exists_classify_program (h : TakenAsPath path) :
    ∃ kind, programGrammar.classify path = .ok kind := by
  by_cases hlong : ∃ c more, path.toList = '-' :: c :: more
  · obtain ⟨c, more, hchars⟩ := hlong
    have hscan := Grammar.length_candidates scanGrammar path.toList
    rw [Grammar.candidates_of_operand hchars h, List.length_nil] at hscan
    have hnone := List.countP_eq_zero.mp hscan.symm
    have hnames : programGrammar.named.map (·.1) =
        ["-h", "--help", "--version", "-v", "--verbose", "--log-file"] := rfl
    have hshared : ∀ name ∈ ["-h", "--help", "-v", "--verbose", "--log-file"],
        Grammar.mayMean path.toList name = false := by
      have hsubset : ["-h", "--help", "-v", "--verbose", "--log-file"] ⊆
          scanGrammar.named.map (·.1) := by decide
      exact fun name hname => Bool.eq_false_iff.mpr (hnone name (hsubset hname))
    refine Grammar.exists_classify_of_candidates ?_
    rw [Grammar.length_candidates, hnames]
    simp only [List.forall_mem_cons] at hshared
    obtain ⟨hh, hhelp, hv, hverbose, hlog, -⟩ := hshared
    simp only [List.countP_cons, List.countP_nil, hh, hhelp, hv, hverbose, hlog,
      Bool.false_eq_true, if_false]
    split
    · exact Nat.le_refl 1
    · exact Nat.zero_le 1
  · rw [Grammar.classify]
    split
    · next c more hchars => exact absurd ⟨c, more, hchars⟩ hlong
    · exact ⟨_, rfl⟩

theorem head?_toString (n : Nat) : (toString n).toList.head? ≠ some '-' := by
  intro h
  have hdigit : Char.isDigit '-' = true := Text.isDigit_of_mem_repr (List.mem_of_mem_head? h)
  exact absurd hdigit (by decide)

theorem ne_separator_of_head {s : String} (h : s.toList.head? ≠ some '-') : s ≠ "--" := by
  rintro rfl
  exact h rfl

theorem head?_name (h : ∀ p ∈ policy, p ∈ Policy.all) :
    ∀ p ∈ policy, p.name.toList.head? ≠ some '-' := by
  have hall : ∀ p ∈ Policy.all, p.name.toList.head? ≠ some '-' := by decide
  exact fun p hp => hall p (h p hp)

/-- What the options for a policy are. -/
def policyKinds (policy : Option Policy) :
    List (String × ArgumentKind (LogRequest × ScanRequest)) :=
  policy.elim [] fun p => [("--policy", scanKind "--policy"), (p.name, .operand)]

/-- What the options for the first files are. -/
def topKinds (top : Option Nat) : List (String × ArgumentKind (LogRequest × ScanRequest)) :=
  top.elim [] fun n => [("--top", scanKind "--top"), (toString n, .operand)]

theorem classifyAll_pair {name v : String} (hname : name ∈ ["--json", "--policy", "--top"])
    (hv : v.toList.head? ≠ some '-') :
    scanGrammar.classifyAll [name, v] = .ok [(name, scanKind name), (v, .operand)] := by
  obtain ⟨hne, hkind, -⟩ := classify_scan hname
  refine Grammar.classifyAll_cons hne hkind ?_
  exact Grammar.classifyAll_cons (ne_separator_of_head hv) (Grammar.classify_of_head hv) rfl

theorem classifyAll_reportArguments (hpath : TakenAsPath path)
    (hpolicy : ∀ p ∈ policy, p ∈ Policy.all) :
    scanGrammar.classifyAll (reportArguments path policy top).tail =
      .ok ((path, .operand) :: ("--json", scanKind "--json") ::
        (policyKinds policy ++ topKinds top)) := by
  have hpolicyKinds :
      scanGrammar.classifyAll (policyArguments policy) = .ok (policyKinds policy) := by
    cases policy with
    | none => rfl
    | some p => exact classifyAll_pair (by decide) (head?_name hpolicy p rfl)
  have htopKinds : scanGrammar.classifyAll (topArguments top) = .ok (topKinds top) := by
    cases top with
    | none => rfl
    | some n => exact classifyAll_pair (by decide) (head?_toString n)
  have hseparator : "--" ∉ policyArguments policy := by
    cases policy with
    | none => simp [policyArguments]
    | some p =>
      have := ne_separator_of_head (head?_name hpolicy p rfl)
      simp [policyArguments, this.symm]
  obtain ⟨hjson, hjsonKind, -⟩ := classify_scan (show "--json" ∈ _ by decide)
  refine Grammar.classifyAll_cons hpath.ne_separator hpath ?_
  refine Grammar.classifyAll_cons hjson hjsonKind ?_
  exact Grammar.classifyAll_append hseparator hpolicyKinds htopKinds

/-- What was read of a scan after its path. -/
abbrev scanReading (log : LogRequest) (request : ScanRequest) (given : List String) :
    Grammar.Reading (LogRequest × ScanRequest) := ⟨(log, request), false, given, []⟩

variable {request : ScanRequest}

theorem find?_scan :
    scanGrammar.find? "--json" =
        some (commandFlag "--json" (fun r => { r with json := true }) ["--format"]) ∧
      scanGrammar.find? "--policy" =
        some (commandValue "--policy" (choice (Policy.all.map (·.name)))
          (fun p r => { r with policy := some p }) []) ∧
      scanGrammar.find? "--top" =
        some (commandValue "--top" countValue (fun n r => { r with top := some n }) []) :=
  ⟨rfl, rfl, rfl⟩

theorem readFrom_policyKinds (hpolicy : ∀ p ∈ policy, p ∈ Policy.all) (log : LogRequest)
    (hrequest : request.policy = none) (given : List String)
    (rest : List (String × ArgumentKind (LogRequest × ScanRequest))) :
    ∃ given', scanGrammar.readFrom (scanReading log request given) (policyKinds policy ++ rest) =
      scanGrammar.readFrom
        (scanReading log { request with policy := policy.map (·.name) } given') rest := by
  cases policy with
  | none =>
    obtain ⟨path, requested, json, format, top, minScore, explain, plain⟩ := request
    obtain rfl : requested = none := hrequest
    exact ⟨given, rfl⟩
  | some p =>
    have hchoice : choice (Policy.all.map (·.name)) p.name = .ok p.name :=
      if_pos (List.contains_iff_mem.mpr (List.mem_map_of_mem (hpolicy p rfl)))
    refine ⟨"--policy" :: given, ?_⟩
    rw [policyKinds, Option.elim_some, scanKind, find?_scan.2.1, List.cons_append, List.cons_append,
      List.nil_append]
    exact readFrom_commandValue hchoice rfl

theorem readFrom_topKinds (htop : ∀ n ∈ top, (toString n).length ≤ Text.digitLimit)
    (log : LogRequest) (hrequest : request.top = none) (given : List String) :
    ∃ given', scanGrammar.readFrom (scanReading log request given) (topKinds top) =
      .ok (scanReading log { request with top := top.map (↑) } given') := by
  cases top with
  | none =>
    obtain ⟨path, policy, json, format, limit, minScore, explain, plain⟩ := request
    obtain rfl : limit = none := hrequest
    exact ⟨given, by rw [topKinds, Option.elim_none, Grammar.readFrom]; rfl⟩
  | some n =>
    have hcount : countValue (toString n) = .ok (n : Int) :=
      (countValue_toString n).trans (if_pos (htop n rfl))
    refine ⟨"--top" :: given, ?_⟩
    rw [topKinds, Option.elim_some, scanKind, find?_scan.2.2, readFrom_commandValue hcount rfl,
      Grammar.readFrom]
    rfl

/-- A number with too many digits is refused. -/
theorem readFrom_topKinds_error {n : Nat} (hlong : Text.digitLimit < (toString n).length)
    (log : LogRequest) (request : ScanRequest) (given : List String) :
    ∃ message, scanGrammar.readFrom (scanReading log request given) (topKinds (some n)) =
      scanGrammar.wrong message := by
  have hcount := (countValue_toString n).trans (if_neg (Nat.not_le.mpr hlong))
  rw [topKinds, Option.elim_some, scanKind, find?_scan.2.2, readFrom_commandValue_error hcount]
  exact ⟨_, rfl⟩

theorem readFrom_path (hpolicy : ∀ p ∈ policy, p ∈ Policy.all) (log : LogRequest) (path : String)
    (top : Option Nat) :
    ∃ given, scanGrammar.readFrom { value := (log, {}) }
        ((path, .operand) :: ("--json", scanKind "--json") ::
          (policyKinds policy ++ topKinds top)) =
      scanGrammar.readFrom
        (scanReading log { path, policy := policy.map (·.name), json := true } given)
        (topKinds top) := by
  have hrequest : ({ path, json := true } : ScanRequest).policy = none := rfl
  obtain ⟨given, hgiven⟩ := readFrom_policyKinds hpolicy log hrequest ["--json"] (topKinds top)
  refine ⟨given, (Grammar.readFrom_operand rfl rfl).trans (Eq.trans ?_ hgiven)⟩
  have hdrop (rest : List (String × ArgumentKind (LogRequest × ScanRequest))) :
      Grammar.dropSeparator (("--json", scanKind "--json") :: rest) =
        ("--json", scanKind "--json") :: rest := rfl
  rw [hdrop, scanKind, find?_scan.1]
  exact readFrom_commandFlag rfl

/-- The arguments of a scan are read by the grammar of scans. -/
theorem read_reportArguments (hpath : TakenAsPath path) (hpolicy : ∀ p ∈ policy, p ∈ Policy.all) :
    programGrammar.read (reportArguments path policy top) ({}, none) =
      readCommand (reportArguments path policy top) ({}, none) := by
  have hall : ∀ s ∈ (reportArguments path policy top).tail,
      s ≠ "--" ∧ ∃ kind, programGrammar.classify s = .ok kind := by
    have hoption {name : String} (h : name ∈ ["--json", "--policy", "--top"]) :=
      And.intro (classify_scan h).1 (classify_scan h).2.2
    have hvalue {v : String} (h : v.toList.head? ≠ some '-') :
        v ≠ "--" ∧ ∃ kind, programGrammar.classify v = .ok kind :=
      ⟨ne_separator_of_head h, _, Grammar.classify_of_head h⟩
    refine List.forall_mem_cons.mpr ⟨⟨hpath.ne_separator, hpath.exists_classify_program⟩,
      List.forall_mem_cons.mpr ⟨hoption (by decide), List.forall_mem_append.mpr ⟨?_, ?_⟩⟩⟩
    · cases policy with
      | none => simp [policyArguments]
      | some p =>
        exact List.forall_mem_cons.mpr ⟨hoption (by decide),
          List.forall_mem_singleton.mpr (hvalue (head?_name hpolicy p rfl))⟩
    · cases top with
      | none => simp [topArguments]
      | some n =>
        exact List.forall_mem_cons.mpr ⟨hoption (by decide),
          List.forall_mem_singleton.mpr (hvalue (head?_toString n))⟩
  obtain ⟨kinds, hkinds, hnames⟩ := Grammar.exists_classifyAll hall
  exact Grammar.read_command rfl (by decide) rfl hkinds hnames

/-- **Asking for a report.** The arguments say what is wanted, unless the number of files is too
long to be read. -/
theorem readArguments_reportArguments (hpath : TakenAsPath path)
    (hpolicy : ∀ p ∈ policy, p ∈ Policy.all)
    (htop : ∀ n ∈ top, (toString n).length ≤ Text.digitLimit) :
    readArguments (reportArguments path policy top) =
      .ok ⟨{}, .scan (reportScan path policy top)⟩ := by
  have hrequest : ({ path, policy := policy.map (·.name), json := true } : ScanRequest).top =
      none := rfl
  obtain ⟨given, hgiven⟩ := readFrom_path hpolicy {} path top
  obtain ⟨given', hgiven'⟩ := readFrom_topKinds htop {} hrequest given
  have hscan : scanGrammar.read (reportArguments path policy top).tail ({}, {}) =
      .ok (({}, reportScan path policy top), []) := by
    rw [Grammar.read, classifyAll_reportArguments hpath hpolicy]
    dsimp only [bind, Except.bind]
    rw [hgiven, hgiven']
    rfl
  rw [readArguments, read_reportArguments hpath hpolicy]
  rw [reportArguments, List.tail_cons] at hscan
  rw [reportArguments, readCommand, hscan]
  rfl

/-- A number of files that is too long to be read is refused. -/
theorem readArguments_of_long {n : Nat} (hpath : TakenAsPath path)
    (hpolicy : ∀ p ∈ policy, p ∈ Policy.all) (hlong : Text.digitLimit < (toString n).length) :
    ∃ program message, readArguments (reportArguments path policy (some n)) =
      .error (.usage program message) := by
  obtain ⟨given, hgiven⟩ := readFrom_path hpolicy {} path (some n)
  obtain ⟨message, hmessage⟩ := readFrom_topKinds_error hlong {}
    { path, policy := policy.map (·.name), json := true } given
  have hscan : scanGrammar.read (reportArguments path policy (some n)).tail ({}, {}) =
      scanGrammar.wrong message := by
    rw [Grammar.read, classifyAll_reportArguments hpath hpolicy]
    dsimp only [bind, Except.bind]
    rw [hgiven, hmessage]
    rfl
  rw [readArguments, read_reportArguments hpath hpolicy]
  rw [reportArguments, List.tail_cons] at hscan
  rw [reportArguments, readCommand, hscan]
  exact ⟨_, _, rfl⟩

end Preflight.CommandLine
