import Preflight.Proofs.Config.Failures
import Preflight.Proofs.Text.Numeral

/-!
# What becomes of configured values

A value that is a text or a number is kept where a text is wanted, and a value that is a whole
number or denotes one is kept where a number is wanted; what is kept and not allowed is an error. A
value of any other kind counts as missing. It is not an error, and nothing is said about it: a gate
that is set to a word is no gate.

## Main definitions

* `Value.Says`, `Value.Denotes`: the text of a value, and the whole number it denotes.
* `Config.Written`: a member that is there and is neither null nor empty.
* `Config.Kept`: a setting is what is written for it, if that is of the kind wanted.
* `Config.Allowed`: nothing is written that is of the kind wanted and not allowed.

## Main results

* `Value.asText?_eq_some_iff`, `Value.asInt?_eq_some_iff`: the texts and numbers that are read.
* `Config.exists_ofValue_iff`, `Config.keepsValues_of_ofValue`: when a mapping has settings, and
  which.
* `Workspace.configured_values`: the same for the configuration file of a path.
-/

namespace Preflight

open Preflight.Yaml

/-! ### Texts of numbers -/

theorem ne_empty_of_mem {s : String} {c : Char} (h : c ∈ s.toList) : s ≠ "" := by
  rintro rfl
  exact List.not_mem_nil h

theorem toString_ne_empty (n : Int) : toString n ≠ "" := by
  cases n with
  | ofNat k =>
    intro h
    exact Nat.toDigits_ne_nil ((Text.toList_repr k).symm.trans (congrArg String.toList h))
  | negSucc k =>
    intro h
    exact absurd (String.append_eq_empty_iff.mp h).1 (by decide)

theorem Text.layoutDigits_ne_empty (m : Nat) (power : Int) : Text.layoutDigits m power ≠ "" := by
  rw [Text.layoutDigits]
  obtain ⟨m, power⟩ := Text.dropZeros 20 m power
  dsimp only
  split
  · split
    · exact ne_empty_of_mem (c := '0') (by simp)
    · split
      · exact ne_empty_of_mem (c := '.') (by simp)
      · exact ne_empty_of_mem (c := '0') (by simp)
  · exact ne_empty_of_mem (c := 'e') (by simp)

theorem Text.numberText_ne_empty (x : Binary64) : Text.numberText x ≠ "" := by
  cases x with
  | nan => decide
  | infinite negative =>
    cases negative with
    | true => decide
    | false => decide
  | finite negative m e =>
    rw [Text.numberText]
    intro h
    have hdigits := (String.append_eq_empty_iff.mp h).2
    split at hdigits
    · exact absurd hdigits (by decide)
    · exact Text.layoutDigits_ne_empty _ _ hdigits

/-! ### What is read of a value -/

namespace Yaml.Value

variable {v : Value} {s : String} {n : Int}

/-- A value is a text, or a number with that text. -/
inductive Says : Value → String → Prop
  | text (s : String) : Says (.text s) s
  | integer {n : Int} (h : isLong n = false) : Says (.integer n) (toString n)
  | number (x : Binary64) : Says (.number x) (Text.numberText x)

/-- A value is a whole number, or a text that denotes one. -/
inductive Denotes : Value → Int → Prop
  | integer (n : Int) : Denotes (.integer n) n
  | text {s : String} {n : Int} (h : Text.readInt? s.toList = some n) : Denotes (.text s) n

theorem asText?_eq_some_iff : v.asText? = .ok (some s) ↔ v.Says s := by
  constructor
  · intro h
    cases v with
    | text t =>
      obtain rfl := Option.some.inj (Except.ok.inj h)
      exact .text t
    | integer n =>
      rw [asText?, map_eq_ok_iff] at h
      obtain ⟨t, ht, hs⟩ := h
      by_cases hlong : isLong n = true
      · rw [integerText, if_pos hlong] at ht
        cases ht
      · rw [integerText, if_neg hlong] at ht
        obtain rfl := Option.some.inj hs
        obtain rfl := Except.ok.inj ht
        exact .integer (Bool.not_eq_true _ ▸ hlong)
    | number x =>
      obtain rfl := Option.some.inj (Except.ok.inj h)
      exact .number x
    | null | boolean _ | bytes _ | list _ | map _ | other => cases h
  · intro h
    cases h with
    | text | number => rfl
    | integer hlong =>
      rw [asText?, integerText, hlong, if_neg Bool.false_ne_true]
      rfl

theorem asInt?_eq_some_iff : v.asInt? = some n ↔ v.Denotes n := by
  constructor
  · intro h
    cases v with
    | integer m =>
      obtain rfl := Option.some.inj h
      exact .integer m
    | text t => exact .text h
    | null | boolean _ | number _ | bytes _ | list _ | map _ | other => cases h
  · intro h
    cases h with
    | integer => rfl
    | text h => exact h

/-- A value says something if it is not the empty text. -/
theorem Says.ne_empty (h : v.Says s) (hv : v ≠ .text "") : s ≠ "" := by
  cases h with
  | text => exact fun hs => hv (congrArg Value.text hs)
  | integer => exact toString_ne_empty _
  | number => exact Text.numberText_ne_empty _

/-- A value says a name, whatever the case of its letters. -/
def Names (v : Value) (name : String) : Prop := ∃ s, v.Says s ∧ name = Text.lowercase s

/-- A value denotes a limit. -/
def DenotesLimit (v : Value) (limit : Option Int) : Prop := ∃ n, v.Denotes n ∧ limit = some n

end Yaml.Value

/-! ### Members -/

namespace Config

variable {v member : Value} {key s : String} {n : Int}

/-- A member is written: it is there, and it is neither null nor the empty text. -/
structure Written (v : Value) (key : String) (member : Value) : Prop where
  get?_eq : v.get? key = some member
  ne_null : member ≠ .null
  ne_empty : member ≠ .text ""

theorem Written.unique {member' : Value} (h : Written v key member)
    (h' : Written v key member') : member = member' :=
  Option.some.inj (h.get?_eq.symm.trans h'.get?_eq)

theorem textOf?_eq_some_iff :
    textOf? v key = .ok (some s) ↔ ∃ member, Written v key member ∧ member.Says s := by
  rw [textOf?]
  cases hmember : v.get? key with
  | none =>
    refine iff_of_false (by simp) ?_
    rintro ⟨member, hwritten, -⟩
    cases hmember.symm.trans hwritten.get?_eq
  | some member =>
    dsimp only
    rw [mapError_eq_ok_iff, map_eq_ok_iff]
    constructor
    · rintro ⟨t, ht, hs⟩
      obtain ⟨rfl, hne⟩ := Option.filter_eq_some_iff.mp hs
      have hread := Value.asText?_eq_some_iff.mp ht
      refine ⟨member, ⟨hmember, ?_, ?_⟩, hread⟩
      · rintro rfl
        cases hread
      · rintro rfl
        cases hread
        exact of_decide_eq_true hne rfl
    · rintro ⟨member', hwritten, hread⟩
      obtain rfl : member = member' := Option.some.inj (hmember.symm.trans hwritten.get?_eq)
      -- the text of a number is never empty, so nothing that is written counts as empty
      refine ⟨some s, Value.asText?_eq_some_iff.mpr hread, ?_⟩
      exact Option.filter_eq_some_iff.mpr ⟨rfl, decide_eq_true (hread.ne_empty hwritten.ne_empty)⟩

theorem intOf?_eq_some_iff :
    intOf? v key = some n ↔ ∃ member, Written v key member ∧ member.Denotes n := by
  rw [intOf?, Option.bind_eq_some_iff]
  simp only [Value.asInt?_eq_some_iff]
  refine exists_congr fun member => ⟨?_, ?_⟩
  · rintro ⟨hmember, hn⟩
    refine ⟨⟨hmember, ?_, ?_⟩, hn⟩
    · rintro rfl
      cases hn
    · rintro rfl
      cases hn with
      | text h => cases h
  · exact fun ⟨hwritten, hn⟩ => ⟨hwritten.get?_eq, hn⟩

/-- A setting is what is written for it, if that is of the kind wanted. Otherwise it is the
standard, whatever is written. -/
structure Kept {α : Type} (v : Value) (key : String) (wanted : Value → α → Prop)
    (standard result : α) : Prop where
  kept : ∀ member a, Written v key member → wanted member a → result = a
  otherwise : (∀ member a, Written v key member → ¬wanted member a) → result = standard

theorem kept_of_textOf? {t : Option String} (h : textOf? v key = .ok t) {standard : String}
    (hstandard : Text.lowercase standard = standard) :
    Kept v key Value.Names standard (Text.lowercase (t.getD standard)) := by
  constructor
  · rintro member name hwritten ⟨s, hs, rfl⟩
    obtain rfl := Except.ok.inj (h.symm.trans (textOf?_eq_some_iff.mpr ⟨member, hwritten, hs⟩))
    rfl
  · intro hnone
    cases t with
    | none => exact hstandard
    | some s =>
      obtain ⟨member, hwritten, hs⟩ := textOf?_eq_some_iff.mp h
      exact absurd ⟨s, hs, rfl⟩ (hnone member _ hwritten)

theorem kept_intOf? : Kept v key Value.DenotesLimit none (intOf? v key) := by
  constructor
  · rintro member limit hwritten ⟨n, hn, rfl⟩
    exact intOf?_eq_some_iff.mpr ⟨member, hwritten, hn⟩
  · intro hnone
    rw [Option.eq_none_iff_forall_ne_some]
    intro n h
    obtain ⟨member, hwritten, hn⟩ := intOf?_eq_some_iff.mp h
    exact hnone member (some n) hwritten ⟨n, hn, rfl⟩

/-- What is wanted of the text of a setting holds of all that is written for it, if it holds of the
standard. -/
theorem forall_names_iff {t : Option String} (h : textOf? v key = .ok t) {standard : String}
    (hstandard : Text.lowercase standard = standard) {allowed : String → Prop}
    (hallowed : allowed standard) :
    (∀ member name, Written v key member → member.Names name → allowed name) ↔
      allowed (Text.lowercase (t.getD standard)) := by
  constructor
  · intro hall
    cases t with
    | none => exact hstandard.symm ▸ hallowed
    | some s =>
      obtain ⟨member, hwritten, hs⟩ := textOf?_eq_some_iff.mp h
      exact hall member _ hwritten ⟨s, hs, rfl⟩
  · intro hresult member name hwritten hname
    rwa [(kept_of_textOf? h hstandard).kept member name hwritten hname] at hresult

theorem exists_textOf?_iff : (∃ t, textOf? v key = .ok t) ↔ ¬LongMember v key :=
  exists_eq_ok_iff_not fun _ => textOf?_eq_error_iff

/-! ### Settings that are named -/

theorem name_ofName (s : String) : (Policy.ofName s).name = s := by
  rw [Policy.ofName]
  cases h : Policy.all.find? (·.name == s) with
  | none => rfl
  | some policy => simpa using List.find?_some h

theorem policyOf_eq_ok_iff {policy : Policy} :
    policyOf v = .ok policy ↔ ∃ t, textOf? v "policy" = .ok t ∧ policy.isKnown = true ∧
      policy = Policy.ofName (Text.lowercase (t.getD Policy.risk.name)) := by
  rw [policyOf, bind_eq_ok_iff]
  refine exists_congr fun t => and_congr_right fun _ => ?_
  dsimp only
  constructor
  · intro h
    split at h
    · next hknown =>
      obtain rfl := Except.ok.inj h
      exact ⟨hknown, rfl⟩
    · cases h
  · rintro ⟨hknown, rfl⟩
    exact if_pos hknown

theorem formatOf_eq_ok_iff {format : Format} :
    formatOf v = .ok format ↔ ∃ t, textOf? (sectionOf v "report") "format" = .ok t ∧
      Format.ofName? (Text.lowercase (t.getD Format.table.name)) = some format := by
  rw [formatOf, bind_eq_ok_iff]
  refine exists_congr fun t => and_congr_right fun _ => ?_
  dsimp only
  cases Format.ofName? (Text.lowercase (t.getD Format.table.name)) with
  | none => simp
  | some f => simp

theorem lowercase_risk : Text.lowercase Policy.risk.name = Policy.risk.name := by decide

theorem lowercase_table : Text.lowercase Format.table.name = Format.table.name := by decide

theorem exists_policyOf_iff :
    (∃ policy, policyOf v = .ok policy) ↔ ¬LongMember v "policy" ∧
      ∀ member name, Written v "policy" member → member.Names name →
        (Policy.ofName name).isKnown = true := by
  simp only [policyOf_eq_ok_iff, ← exists_textOf?_iff]
  constructor
  · rintro ⟨policy, t, ht, hknown, rfl⟩
    exact ⟨⟨t, ht⟩, (forall_names_iff ht lowercase_risk (by decide)).mpr hknown⟩
  · rintro ⟨⟨t, ht⟩, hall⟩
    exact ⟨_, t, ht, (forall_names_iff ht lowercase_risk (by decide)).mp hall, rfl⟩

theorem exists_formatOf_iff :
    (∃ format, formatOf v = .ok format) ↔ ¬LongMember (sectionOf v "report") "format" ∧
      ∀ member name, Written (sectionOf v "report") "format" member → member.Names name →
        ∃ format, Format.ofName? name = some format := by
  simp only [formatOf_eq_ok_iff, ← exists_textOf?_iff]
  constructor
  · rintro ⟨format, t, ht, hformat⟩
    exact ⟨⟨t, ht⟩, (forall_names_iff ht lowercase_table ⟨.table, rfl⟩).mpr ⟨format, hformat⟩⟩
  · rintro ⟨⟨t, ht⟩, hall⟩
    obtain ⟨format, hformat⟩ := (forall_names_iff ht lowercase_table ⟨.table, rfl⟩).mp hall
    exact ⟨format, t, ht, hformat⟩

theorem kept_policyOf {policy : Policy} (h : policyOf v = .ok policy) :
    Kept v "policy" Value.Names Policy.risk.name policy.name := by
  obtain ⟨t, ht, -, rfl⟩ := policyOf_eq_ok_iff.mp h
  rw [name_ofName]
  exact kept_of_textOf? ht lowercase_risk

theorem kept_formatOf {format : Format} (h : formatOf v = .ok format) :
    Kept (sectionOf v "report") "format" Value.Names Format.table.name format.name := by
  obtain ⟨t, ht, hformat⟩ := formatOf_eq_ok_iff.mp h
  have hname : format.name = Text.lowercase (t.getD Format.table.name) := by
    simpa using List.find?_some hformat
  rw [hname]
  exact kept_of_textOf? ht lowercase_table

/-! ### The gate -/

theorem minScoreOf_eq_ok_iff {minScore : Option Int} :
    minScoreOf v = .ok minScore ↔ minScore = intOf? (sectionOf v "gate") "min_score" ∧
      ∀ n, minScore = some n → 0 ≤ n ∧ n ≤ 100 := by
  rw [minScoreOf]
  cases intOf? (sectionOf v "gate") "min_score" with
  | none => simp +contextual [eq_comm]
  | some n =>
    dsimp only
    by_cases hrange : 0 ≤ n ∧ n ≤ 100
    · rw [if_pos (by simpa using hrange), Except.ok.injEq, eq_comm]
      refine (and_iff_left_of_imp ?_).symm
      rintro rfl m hm
      rwa [← Option.some.inj hm]
    · rw [if_neg (by simpa using hrange)]
      refine iff_of_false (by simp) ?_
      rintro ⟨rfl, hall⟩
      exact hrange (hall n rfl)

theorem exists_minScoreOf_iff :
    (∃ minScore, minScoreOf v = .ok minScore) ↔
      ∀ member n, Written (sectionOf v "gate") "min_score" member → member.Denotes n →
        0 ≤ n ∧ n ≤ 100 := by
  simp only [minScoreOf_eq_ok_iff, exists_eq_left, intOf?_eq_some_iff]
  constructor
  · exact fun h member n hwritten hn => h n ⟨member, hwritten, hn⟩
  · rintro h n ⟨member, hwritten, hn⟩
    exact h member n hwritten hn

/-! ### All settings -/

/-- Nothing is written that is of the kind wanted and not allowed. -/
structure Allowed (v : Value) : Prop where
  policy : ∀ member name, Written v "policy" member → member.Names name →
    (Policy.ofName name).isKnown = true
  minScore : ∀ member n, Written (sectionOf v "gate") "min_score" member → member.Denotes n →
    0 ≤ n ∧ n ≤ 100
  format : ∀ member name, Written (sectionOf v "report") "format" member → member.Names name →
    ∃ format, Format.ofName? name = some format

/-- Where a text is wanted there is no number that is too long to be written. -/
structure Writable (v : Value) : Prop where
  policy : ¬LongMember v "policy"
  format : ¬LongMember (sectionOf v "report") "format"
  scan : ∀ key ∈ ["extensions", "exclude_paths", "manifest_files"],
    ¬LongItem (sectionOf v "scan") key

/-- What is written for a setting and is of the kind wanted is the setting. -/
structure KeepsValues (v : Value) (c : Config) : Prop where
  policy : Kept v "policy" Value.Names Policy.risk.name c.policy.name
  minScore : Kept (sectionOf v "gate") "min_score" Value.DenotesLimit none c.minScore
  top : Kept (sectionOf v "report") "top" Value.DenotesLimit none c.top
  format : Kept (sectionOf v "report") "format" Value.Names Format.table.name c.format.name

variable {root : Path} {c : Config} {failure : ConfigFailure}

theorem exists_scanOf_iff :
    (∃ scan, scanOf v = .ok scan) ↔ ∀ key ∈ ["extensions", "exclude_paths", "manifest_files"],
      ¬LongItem (sectionOf v "scan") key := by
  rw [exists_eq_ok_iff_not fun _ => scanOf_eq_error_iff]
  simp only [not_exists, not_and]

theorem ofValue_eq_ok_iff (hmap : v.isMap = true) :
    ofValue root v = .ok c ↔ c.root = root ∧ policyOf v = .ok c.policy ∧
      minScoreOf v = .ok c.minScore ∧ formatOf v = .ok c.format ∧ scanOf v = .ok c.scan ∧
      c.top = intOf? (sectionOf v "report") "top" := by
  rw [ofValue, hmap, if_neg (by decide)]
  simp only [bind_eq_ok_iff]
  constructor
  · rintro ⟨policy, hpolicy, minScore, hscore, format, hformat, scan, hscan, hc⟩
    obtain rfl := Except.ok.inj hc
    exact ⟨rfl, hpolicy, hscore, hformat, hscan, rfl⟩
  · rintro ⟨rfl, hpolicy, hscore, hformat, hscan, htop⟩
    exact ⟨_, hpolicy, _, hscore, _, hformat, _, hscan, htop ▸ rfl⟩

/-- **When a mapping has settings.** -/
theorem exists_ofValue_iff (hmap : v.isMap = true) :
    (∃ c, ofValue root v = .ok c) ↔ Allowed v ∧ Writable v := by
  simp only [ofValue_eq_ok_iff hmap]
  constructor
  · rintro ⟨c, -, hpolicy, hscore, hformat, hscan, -⟩
    obtain ⟨hshort, hknown⟩ := exists_policyOf_iff.mp ⟨_, hpolicy⟩
    obtain ⟨hshort', hknown'⟩ := exists_formatOf_iff.mp ⟨_, hformat⟩
    exact ⟨⟨hknown, exists_minScoreOf_iff.mp ⟨_, hscore⟩, hknown'⟩,
      ⟨hshort, hshort', exists_scanOf_iff.mp ⟨_, hscan⟩⟩⟩
  · rintro ⟨hallowed, hwritable⟩
    obtain ⟨policy, hpolicy⟩ := exists_policyOf_iff.mpr ⟨hwritable.policy, hallowed.policy⟩
    obtain ⟨minScore, hscore⟩ := exists_minScoreOf_iff.mpr hallowed.minScore
    obtain ⟨format, hformat⟩ := exists_formatOf_iff.mpr ⟨hwritable.format, hallowed.format⟩
    obtain ⟨scan, hscan⟩ := exists_scanOf_iff.mpr hwritable.scan
    exact ⟨⟨root, policy, minScore, _, format, scan⟩, rfl, hpolicy, hscore, hformat, hscan, rfl⟩

/-- **Which settings a mapping has.** -/
theorem keepsValues_of_ofValue (hmap : v.isMap = true) (h : ofValue root v = .ok c) :
    KeepsValues v c := by
  obtain ⟨-, hpolicy, hscore, hformat, -, htop⟩ := (ofValue_eq_ok_iff hmap).mp h
  refine ⟨kept_policyOf hpolicy, ?_, ?_, kept_formatOf hformat⟩
  · rw [(minScoreOf_eq_ok_iff.mp hscore).1]
    exact kept_intOf?
  · rw [htop]
    exact kept_intOf?

theorem not_writable_of_valueRefused (h : ValueRefused v) : ¬Writable v := by
  intro hwritable
  cases h with
  | policy h => exact hwritable.policy h
  | format _ _ h => exact hwritable.format h
  | scan _ _ _ hkey h => exact hwritable.scan _ hkey h

end Config

/-! ### The configuration file -/

namespace Workspace

variable {w : Workspace} {p file root : Path} {text : String} {v : Value}

/-- What a configuration file says is what its text says. -/
theorem loadConfig_of_readText (hfile : w.configFile p = .ok file)
    (hroot : w.realPath file.parent = .ok root) (htext : w.readText file = .ok text) :
    w.loadConfig p = Config.ofText w.readers.load root file.name text := by
  obtain ⟨e, he⟩ : ∃ e, w.entry file = .ok e := by
    cases h : w.entry file with
    | ok e => exact ⟨e, rfl⟩
    | error f =>
      rw [readText, readBytes, h] at htext
      cases htext
  rw [loadConfig, hfile]
  dsimp only
  rw [hroot]
  dsimp only
  rw [he]
  dsimp only
  rw [htext]

/-- **A configured value of the wrong kind is discarded.** The mapping in a configuration file has
settings unless something in it is not allowed or too long. Each setting is what is written for it,
if that is of the kind wanted; a value of another kind is discarded, and the setting is as if
nothing were written. -/
theorem configured_values (hfile : w.configFile p = .ok file)
    (hroot : w.realPath file.parent = .ok root) (htext : w.readText file = .ok text)
    (hblank : Text.isBlankText text.toList = false) (hload : w.readers.load text = .ok v)
    (hmap : v.isMap = true) :
    ((∃ c, w.loadConfig p = .ok c) ↔ Config.Allowed v ∧ Config.Writable v) ∧
      (∀ c, w.loadConfig p = .ok c → c.root = root ∧ Config.KeepsValues v c) ∧
      ∀ failure, w.loadConfig p = .error failure →
        (∃ e, failure = .config e) ∨ failure = .scalar .longNumeral ∧ ¬Config.Writable v := by
  have hvalue : w.loadConfig p = Config.ofValue root v := by
    rw [loadConfig_of_readText hfile hroot htext, Config.ofText, hblank,
      if_neg Bool.false_ne_true, hload]
    cases v with
    | map pairs => rfl
    | null | boolean _ | integer _ | number _ | text _ | bytes _ | list _ | other => cases hmap
  rw [hvalue]
  refine ⟨Config.exists_ofValue_iff hmap, fun c hc => ?_, fun failure hfailure => ?_⟩
  · exact ⟨Config.root_of_ofValue hc, Config.keepsValues_of_ofValue hmap hc⟩
  · by_contra hnot
    have hstops : failure.Stops := fun e he => hnot (Or.inl ⟨e, he⟩)
    obtain ⟨hlong, hrefused⟩ := (Config.ofValue_eq_error_iff hstops).mp hfailure
    exact hnot (Or.inr ⟨hlong, Config.not_writable_of_valueRefused hrefused⟩)

end Workspace

/-! ### A gate that is off -/

/-- A configuration with a gate that is set to a word. -/
def wordyGate : String := "gate:\n  min_score: high\n"

/-- A project with that configuration. -/
def wordyGateProject : Workspace :=
  { top := .directory [("p", .directory
      [(".aiready.yml", .file (wordyGate.toList.map fun c => c.toNat.toUInt8))])]
    current := []
    home := [] }

/-- What is read is a mapping with a gate that is set to a word. -/
def hasWordyGate : Except Fault Value → Bool
  | .ok v => v.isMap && match (Config.sectionOf v "gate").get? "min_score" with
    | some (.text s) => s == "high"
    | _ => false
  | .error _ => false

theorem exists_load_wordyGate :
    ∃ v, load wordyGate = .ok v ∧ v.isMap = true ∧
      Config.Written (Config.sectionOf v "gate") "min_score" (.text "high") := by
  have hgate : hasWordyGate (load wordyGate) = true := by decide +kernel
  cases hload : load wordyGate with
  | error f =>
    rw [hload] at hgate
    cases hgate
  | ok v =>
    rw [hload] at hgate
    obtain ⟨hmap, hword⟩ := Bool.and_eq_true_iff.mp hgate
    refine ⟨v, rfl, hmap, ?_, Value.noConfusion, by simp⟩
    split at hword
    · next s hs => rw [hs, eq_of_beq hword]
    · cases hword

/-- The gate that is set to a word is written, and it is off. -/
theorem configured_values_wordyGate :
    ∃ v c, load wordyGate = .ok v ∧
      Config.Written (Config.sectionOf v "gate") "min_score" (.text "high") ∧
      wordyGateProject.loadConfig ⟨.top, ["p"]⟩ = .ok c ∧ c.minScore = none := by
  have hfile : wordyGateProject.configFile ⟨.top, ["p"]⟩ = .ok ⟨.top, ["p", ".aiready.yml"]⟩ := by
    decide +kernel
  have hroot : wordyGateProject.realPath (⟨.top, ["p", ".aiready.yml"]⟩ : Path).parent =
      .ok ⟨.top, ["p"]⟩ := by
    decide +kernel
  have htext : wordyGateProject.readText ⟨.top, ["p", ".aiready.yml"]⟩ = .ok wordyGate := by
    decide +kernel
  have hsettings : wordyGateProject.loadConfig ⟨.top, ["p"]⟩ = .ok { root := ⟨.top, ["p"]⟩ } := by
    decide +kernel
  obtain ⟨v, hload, hmap, hwritten⟩ := exists_load_wordyGate
  have hreads : wordyGateProject.readers.load wordyGate = .ok v := by
    have hreaders : wordyGateProject.readers = .standard := rfl
    simp only [hreaders, Readers.load_standard]
    exact hload
  obtain ⟨-, hkeeps, -⟩ := Workspace.configured_values hfile hroot htext (by decide) hreads hmap
  refine ⟨v, _, hload, hwritten, hsettings, ?_⟩
  refine (hkeeps _ hsettings).2.minScore.otherwise fun member limit hmember hlimit => ?_
  obtain rfl := hwritten.unique hmember
  obtain ⟨n, hn, -⟩ := hlimit
  cases hn with
  | text h => cases h

end Preflight
