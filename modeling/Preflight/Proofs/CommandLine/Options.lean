import Preflight.CommandLine.Options
import Preflight.Proofs.Log.Results

/-!
# Reading a command line argument by argument

Whether an argument can be classified depends on how many options it may stand for. What is read of
some arguments is what is read of the first one, and then of the others.

## Main definitions

* `Grammar.mayMean`: a text that may stand for the option of a name.

## Main results

* `Grammar.exists_classify_of_candidates`, `Grammar.candidates_of_operand`: classified arguments.
* `Grammar.readFrom_operand`, `Grammar.readFrom_flag`, `Grammar.readFrom_value`: one argument more.
* `Grammar.read_command`: the arguments of a command.
-/

namespace Preflight.CommandLine.Grammar

variable {σ : Type} {g : Grammar σ} {r : Reading σ} {o : OptionSpec σ} {s name v : String}
  {rest : List (String × ArgumentKind σ)}

/-! ### What an argument is -/

/-- A text that is the name of no option may stand for the option of a name. -/
def mayMean (cs : List Char) (name : String) : Bool :=
  match cs with
  | '-' :: '-' :: _ => (cutAtEquals cs).1.isPrefixOf name.toList
  | _ => name.toList = cs.take 2 || cs.isPrefixOf name.toList

theorem length_candidates (g : Grammar σ) (cs : List Char) :
    (g.candidates cs).length = (g.named.map (·.1)).countP (mayMean cs) := by
  rw [List.countP_map]
  unfold candidates
  split
  · next more =>
    rw [List.length_filterMap_eq_countP]
    refine List.countP_congr fun entry _ => ?_
    rw [Function.comp_apply, mayMean]
    by_cases hstart : (cutAtEquals ('-' :: '-' :: more)).1.isPrefixOf entry.1.toList = true
    · simp [hstart]
    · simp [hstart]
  · next hlong =>
    rw [List.length_filterMap_eq_countP]
    refine List.countP_congr fun entry _ => ?_
    rw [Function.comp_apply, mayMean.eq_2 _ _ hlong]
    by_cases hshort : entry.1.toList = cs.take 2
    · simp [hshort]
    · by_cases hstart : cs.isPrefixOf entry.1.toList = true
      · simp [hshort, hstart]
      · simp [hshort, hstart]

/-- An argument that may stand for one option at most is one thing or another. -/
theorem exists_classify_of_candidates (h : (g.candidates s.toList).length ≤ 1) :
    ∃ kind, g.classify s = .ok kind := by
  have hdashed : ∃ kind, g.classifyDashed s = .ok kind := by
    unfold classifyDashed
    dsimp only
    split
    · exact ⟨_, rfl⟩
    · split
      · exact ⟨_, rfl⟩
      · exact ⟨_, rfl⟩
    · next hone hnone =>
      cases hcandidates : g.candidates s.toList with
      | nil => exact absurd hcandidates hnone
      | cons first more =>
        cases more with
        | nil => exact absurd hcandidates (hone _ _ _)
        | cons second others => simp [hcandidates] at h
  unfold classify
  split
  · split
    · exact ⟨_, rfl⟩
    · split
      · exact ⟨_, rfl⟩
      · exact hdashed
    · exact hdashed
  · exact ⟨_, rfl⟩

/-- An argument with a dash that is an operand may stand for no option. -/
theorem candidates_of_operand {c : Char} {more : List Char} (hs : s.toList = '-' :: c :: more)
    (h : g.classify s = .ok .operand) : g.candidates s.toList = [] := by
  have hdashed (h : g.classifyDashed s = .ok .operand) : g.candidates s.toList = [] := by
    unfold classifyDashed at h
    dsimp only at h
    split at h
    · cases h
    · next hnone => exact hnone
    · cases h
  unfold classify at h
  split at h
  · split at h
    · cases h
    · split at h
      · cases h
      · exact hdashed h
    · exact hdashed h
  · next hshort => exact absurd hs (hshort _ _)

/-! ### One argument after another -/

theorem classify_of_head {s : String} (h : s.toList.head? ≠ some '-') :
    g.classify s = .ok .operand := by
  rw [classify]
  split
  · next heq => simp [heq] at h
  · rfl

theorem classifyAll_cons {arguments : List String} {kind : ArgumentKind σ}
    {kinds : List (String × ArgumentKind σ)} (hs : s ≠ "--") (hkind : g.classify s = .ok kind)
    (hrest : g.classifyAll arguments = .ok kinds) :
    g.classifyAll (s :: arguments) = .ok ((s, kind) :: kinds) := by
  rw [classifyAll, if_neg hs, hkind, hrest]
  rfl

theorem classifyAll_append {arguments others : List String}
    {kinds otherKinds : List (String × ArgumentKind σ)} (hseparator : "--" ∉ arguments)
    (hkinds : g.classifyAll arguments = .ok kinds)
    (hothers : g.classifyAll others = .ok otherKinds) :
    g.classifyAll (arguments ++ others) = .ok (kinds ++ otherKinds) := by
  induction arguments generalizing kinds with
  | nil =>
    obtain rfl := Except.ok.inj hkinds
    exact hothers
  | cons s arguments ih =>
    obtain ⟨hs, hseparator⟩ := List.ne_and_not_mem_of_not_mem_cons hseparator
    rw [classifyAll, if_neg hs.symm] at hkinds
    obtain ⟨kind, hkind, hkinds⟩ := bind_eq_ok_iff.mp hkinds
    obtain ⟨more, hmore, hcons⟩ := bind_eq_ok_iff.mp hkinds
    obtain rfl := Except.ok.inj hcons
    exact classifyAll_cons hs.symm hkind (ih hseparator hmore)

theorem exists_classifyAll {arguments : List String}
    (h : ∀ s ∈ arguments, s ≠ "--" ∧ ∃ kind, g.classify s = .ok kind) :
    ∃ kinds, g.classifyAll arguments = .ok kinds ∧ kinds.map (·.1) = arguments := by
  induction arguments with
  | nil => exact ⟨[], rfl, rfl⟩
  | cons s arguments ih =>
    obtain ⟨⟨hs, kind, hkind⟩, hrest⟩ := List.forall_mem_cons.mp h
    obtain ⟨kinds, hkinds, hnames⟩ := ih hrest
    exact ⟨_, classifyAll_cons hs hkind hkinds, congrArg (s :: ·) hnames⟩

theorem readFrom_operand {set : String → σ → σ} (hoperands : g.operands = .optional set)
    (hawaiting : r.awaiting = true) :
    g.readFrom r ((s, .operand) :: rest) =
      g.readFrom { r with value := set s r.value, awaiting := false } (dropSeparator rest) := by
  rw [readFrom, hawaiting, hoperands]

theorem options?_flag (h : o.takesValue = false) :
    g.options? s (some o) name none rest = .ok ([(o, none)], [], 0) := by
  rw [options?]
  simp [h, bind, Except.bind, pure, Except.pure]

theorem options?_value (h : o.takesValue = true) :
    g.options? s (some o) name none ((v, .operand) :: rest) = .ok ([(o, some v)], [], 1) := by
  rw [options?]
  simp [h, bind, Except.bind, pure, Except.pure]

theorem readFrom_option {spec : Option (OptionSpec σ)} {attached : Option Attached}
    {options : List (OptionSpec σ × Option String)} {left : List String} {taken : Nat}
    {r' : Reading σ} (hoptions : g.options? s spec name attached rest = .ok (options, left, taken))
    (happly : g.applyAll r options = .ok r') :
    g.readFrom r ((s, .option spec name attached) :: rest) =
      g.readFrom { r' with leftOver := r'.leftOver ++ left } (rest.drop taken) := by
  rw [readFrom, hoptions]
  dsimp only [bind, Except.bind]
  rw [happly]

/-- An option that is given or not. -/
theorem readFrom_flag {set : σ → σ} (ho : o.effect = .flag set)
    (hexcludes : o.excludes.find? r.given.contains = none) :
    g.readFrom r ((s, .option (some o) name none) :: rest) =
      g.readFrom { r with value := set r.value, given := o.title :: r.given } rest := by
  have hvalue : o.takesValue = false := by rw [OptionSpec.takesValue, ho]
  have happly : g.applyAll r [(o, none)] =
      .ok { r with value := set r.value, given := o.title :: r.given } := by
    rw [applyAll, apply, ho, hexcludes]
    rfl
  rw [readFrom_option (options?_flag hvalue) happly]
  simp only [List.append_nil, List.drop_zero]

/-- An option with a value. -/
theorem readFrom_value {read : String → Except String (σ → σ)} {set : σ → σ}
    (ho : o.effect = .value read) (hread : read v = .ok set)
    (hexcludes : o.excludes.find? r.given.contains = none) :
    g.readFrom r ((s, .option (some o) name none) :: (v, .operand) :: rest) =
      g.readFrom { r with value := set r.value, given := o.title :: r.given } rest := by
  have hvalue : o.takesValue = true := by rw [OptionSpec.takesValue, ho]
  have happly : g.applyAll r [(o, some v)] =
      .ok { r with value := set r.value, given := o.title :: r.given } := by
    rw [applyAll, apply, ho, hexcludes]
    dsimp only [Option.getD_some]
    rw [hread]
    rfl
  rw [readFrom_option (options?_value hvalue) happly]
  simp only [List.append_nil, List.drop_succ_cons, List.drop_zero]

/-- An option with a value that is refused. -/
theorem readFrom_value_error {read : String → Except String (σ → σ)} {message : String}
    (ho : o.effect = .value read) (hread : read v = .error message) :
    g.readFrom r ((s, .option (some o) name none) :: (v, .operand) :: rest) =
      g.wrongAt o.title message := by
  have hvalue : o.takesValue = true := by rw [OptionSpec.takesValue, ho]
  rw [readFrom, options?_value hvalue]
  dsimp only [bind, Except.bind]
  rw [applyAll, apply, ho]
  dsimp only [Option.getD_some]
  rw [hread]
  rfl

/-- A command gets all arguments from its name on. -/
theorem read_command {title : String} {command : List String → σ → Except Stop (σ × List String)}
    {arguments : List String} {kinds : List (String × ArgumentKind σ)} {start : σ}
    (hoperands : g.operands = .command title command) (hs : s ≠ "--")
    (hkind : g.classify s = .ok .operand) (hkinds : g.classifyAll arguments = .ok kinds)
    (hnames : kinds.map (·.1) = arguments) :
    g.read (s :: arguments) start = command (s :: arguments) start := by
  rw [read, classifyAll_cons hs hkind hkinds]
  dsimp only [bind, Except.bind]
  rw [readFrom, hoperands]
  dsimp only
  rw [hnames]
  cases command (s :: arguments) start with
  | error stop => rfl
  | ok result => rfl

end Preflight.CommandLine.Grammar
