import Preflight.Config
import Preflight.Proofs.Log.Results

/-!
# Why a configuration text is refused

What is wrong with a configuration is said as such, with three exceptions: bytes that are no text, a
scalar that denotes no value of its kind, and a whole number that is too long to be written where a
text is wanted. These stop whoever reads the configuration.

## Main definitions

* `Config.Reported`: there are settings, or it is said what is wrong with the configuration.
* `Config.ValueRefused`, `TextRefused`, `Refused`: values, texts and bytes that stop the reader.

## Main results

* `Config.ofText_eq_scalar_iff`: which texts are refused, and why.
* `Config.reported_ofText_iff`: a text is reported on unless it is refused.
-/

namespace Preflight

open Preflight.Yaml

/-! ### Texts of values -/

namespace Yaml.Value

variable {v : Value} {f : Fault} {key : String}

/-- A value with a member is a mapping. -/
theorem isMap_of_get? {member : Value} (h : v.get? key = some member) : v.isMap = true := by
  cases v with
  | map pairs => rfl
  | null | boolean _ | integer _ | number _ | text _ | bytes _ | list _ | other => cases h

/-- A whole number that is too long to be written. -/
def IsLongNumeral (v : Value) : Prop := ∃ n, v = .integer n ∧ isLong n = true

theorem integerText_eq_error_iff {n : Int} :
    integerText n = .error f ↔ f = .longNumeral ∧ isLong n = true := by
  by_cases hlong : isLong n = true
  · rw [integerText, if_pos hlong]
    simp [hlong, eq_comm]
  · rw [integerText, if_neg hlong]
    simp [hlong]

theorem asText?_eq_error_iff : v.asText? = .error f ↔ f = .longNumeral ∧ v.IsLongNumeral := by
  cases v with
  | integer n =>
    rw [asText?, map_eq_error_iff, integerText_eq_error_iff, IsLongNumeral]
    simp only [integer.injEq, exists_eq_left']
  | null | boolean _ | number _ | text _ | bytes _ | list _ | map _ | other =>
    simp [asText?, IsLongNumeral]

theorem itemText?_eq_error_iff : v.itemText? = .error f ↔ f = .longNumeral ∧ v.IsLongNumeral := by
  cases v with
  | boolean b => simp [itemText?, IsLongNumeral]
  | null | integer _ | number _ | text _ | bytes _ | list _ | map _ | other =>
    simp only [itemText?, asText?_eq_error_iff]

theorem asTexts_eq_error_iff :
    v.asTexts = .error f ↔
      f = .longNumeral ∧ ∃ items, v = .list items ∧ ∃ item ∈ items, item.IsLongNumeral := by
  cases v with
  | list items =>
    have hitems : ∀ item ∈ items, ∀ f', itemText? item = .error f' → f' = .longNumeral :=
      fun item _ f' h => (itemText?_eq_error_iff.mp h).1
    rw [asTexts, map_eq_error_iff, mapM_eq_error_iff hitems]
    simp [itemText?_eq_error_iff]
  | null | boolean _ | integer _ | number _ | text _ | bytes _ | map _ | other => simp [asTexts]

end Yaml.Value

/-! ### Settings -/

/-- A failure stops whoever reads a configuration: nothing is said about what is wrong with it. -/
def ConfigFailure.Stops (failure : ConfigFailure) : Prop := ∀ e, failure ≠ .config e

namespace Config

variable {v : Value} {key : String} {failure : ConfigFailure}

/-- A member of a value is a long number. -/
def LongMember (v : Value) (key : String) : Prop :=
  ∃ member, v.get? key = some member ∧ member.IsLongNumeral

/-- A member of a value is a list with a long number. -/
def LongItem (v : Value) (key : String) : Prop :=
  ∃ items, v.get? key = some (.list items) ∧ ∃ item ∈ items, item.IsLongNumeral

theorem textOf?_eq_error_iff :
    textOf? v key = .error failure ↔ failure = .scalar .longNumeral ∧ LongMember v key := by
  rw [textOf?, LongMember]
  cases v.get? key with
  | none => simp
  | some member =>
    simp only [mapError_eq_error_iff, map_eq_error_iff, Value.asText?_eq_error_iff,
      Option.some.injEq, exists_eq_left']
    constructor
    · rintro ⟨f, ⟨rfl, hlong⟩, rfl⟩
      exact ⟨rfl, hlong⟩
    · rintro ⟨rfl, hlong⟩
      exact ⟨_, ⟨rfl, hlong⟩, rfl⟩

theorem textsOf_eq_error_iff :
    textsOf v key = .error failure ↔ failure = .scalar .longNumeral ∧ LongItem v key := by
  rw [textsOf, LongItem]
  cases v.get? key with
  | none => simp
  | some member =>
    simp only [mapError_eq_error_iff, Value.asTexts_eq_error_iff, Option.some.injEq]
    constructor
    · rintro ⟨f, ⟨rfl, hitems⟩, rfl⟩
      exact ⟨rfl, hitems⟩
    · rintro ⟨rfl, hitems⟩
      exact ⟨_, ⟨rfl, hitems⟩, rfl⟩

theorem eq_of_textsOf_eq_error (failure : ConfigFailure) (h : textsOf v key = .error failure) :
    failure = .scalar .longNumeral :=
  (textsOf_eq_error_iff.mp h).1

/-- A value that stops the reader: where a text is wanted a long number stands, and what is read
before it is in order. -/
inductive ValueRefused (v : Value) : Prop
  | policy (h : LongMember v "policy")
  | format {policy : Policy} (hpolicy : policyOf v = .ok policy) {minScore : Option Int}
      (hscore : minScoreOf v = .ok minScore) (h : LongMember (sectionOf v "report") "format")
  | scan {policy : Policy} (hpolicy : policyOf v = .ok policy) {minScore : Option Int}
      (hscore : minScoreOf v = .ok minScore) {format : Format} (hformat : formatOf v = .ok format)
      {key : String} (hkey : key ∈ ["extensions", "exclude_paths", "manifest_files"])
      (h : LongItem (sectionOf v "scan") key)

theorem policyOf_eq_error_iff (hstops : failure.Stops) :
    policyOf v = .error failure ↔ failure = .scalar .longNumeral ∧ LongMember v "policy" := by
  rw [policyOf, bind_eq_error_iff, textOf?_eq_error_iff]
  refine or_iff_left ?_
  rintro ⟨text, -, h⟩
  dsimp only at h
  split at h
  · cases h
  · exact hstops _ (Except.error.inj h).symm

theorem minScoreOf_ne_error (hstops : failure.Stops) : minScoreOf v ≠ .error failure := by
  intro h
  rw [minScoreOf] at h
  split at h
  · split at h
    · cases h
    · exact hstops _ (Except.error.inj h).symm
  · cases h

theorem formatOf_eq_error_iff (hstops : failure.Stops) :
    formatOf v = .error failure ↔
      failure = .scalar .longNumeral ∧ LongMember (sectionOf v "report") "format" := by
  rw [formatOf, bind_eq_error_iff, textOf?_eq_error_iff]
  refine or_iff_left ?_
  rintro ⟨text, -, h⟩
  dsimp only at h
  split at h
  · cases h
  · exact hstops _ (Except.error.inj h).symm

theorem scanOf_eq_error_iff :
    scanOf v = .error failure ↔
      failure = .scalar .longNumeral ∧ ∃ key ∈ ["extensions", "exclude_paths", "manifest_files"],
        LongItem (sectionOf v "scan") key := by
  rw [scanOf, bind_eq_error_iff_or eq_of_textsOf_eq_error fun extensions =>
    bind_eq_error_iff_or eq_of_textsOf_eq_error fun excluded =>
      bind_eq_error_iff_or eq_of_textsOf_eq_error (P := False) fun manifests => ?_]
  · simp [textsOf_eq_error_iff]
  · simp [pure, Except.pure]

/-- What has a section with a member is a mapping. -/
theorem isMap_of_sectionOf {name : String} {member : Value}
    (h : (sectionOf v name).get? key = some member) : v.isMap = true := by
  cases hsection : v.get? name with
  | none =>
    rw [sectionOf, hsection] at h
    cases h
  | some inner => exact Value.isMap_of_get? hsection

theorem ValueRefused.isMap (h : ValueRefused v) : v.isMap = true := by
  cases h with
  | policy h =>
    obtain ⟨member, hmember, -⟩ := h
    exact Value.isMap_of_get? hmember
  | format _ _ h =>
    obtain ⟨member, hmember, -⟩ := h
    exact isMap_of_sectionOf hmember
  | scan _ _ _ _ h =>
    obtain ⟨items, hitems, -⟩ := h
    exact isMap_of_sectionOf hitems

/-- **The values that stop the reader**, and why. -/
theorem ofValue_eq_error_iff (hstops : failure.Stops) {root : Path} :
    ofValue root v = .error failure ↔ failure = .scalar .longNumeral ∧ ValueRefused v := by
  rw [ofValue]
  split
  · next hmap =>
    rw [Bool.not_eq_true'] at hmap
    refine iff_of_false (fun h => hstops _ (Except.error.inj h).symm) fun h => ?_
    exact Bool.false_ne_true (hmap.symm.trans h.2.isMap)
  · rw [bind_eq_error_iff, policyOf_eq_error_iff hstops]
    constructor
    · rintro (⟨hlong, h⟩ | ⟨policy, hpolicy, h⟩)
      · exact ⟨hlong, .policy h⟩
      · rcases bind_eq_error_iff.mp h with h | ⟨minScore, hscore, h⟩
        · exact absurd h (minScoreOf_ne_error hstops)
        · rcases bind_eq_error_iff.mp h with h | ⟨format, hformat, h⟩
          · obtain ⟨hlong, h⟩ := (formatOf_eq_error_iff hstops).mp h
            exact ⟨hlong, .format hpolicy hscore h⟩
          · rcases bind_eq_error_iff.mp h with h | ⟨scan, -, h⟩
            · obtain ⟨hlong, key, hkey, h⟩ := scanOf_eq_error_iff.mp h
              exact ⟨hlong, .scan hpolicy hscore hformat hkey h⟩
            · cases h
    · rintro ⟨hlong, h⟩
      cases h with
      | policy h => exact Or.inl ⟨hlong, h⟩
      | @format policy hpolicy minScore hscore h =>
        have hformat := (formatOf_eq_error_iff hstops).mpr ⟨hlong, h⟩
        refine Or.inr ⟨policy, hpolicy, ?_⟩
        rw [hscore, hformat]
        rfl
      | @scan policy hpolicy minScore hscore format hformat key hkey h =>
        have hscan := scanOf_eq_error_iff.mpr ⟨hlong, key, hkey, h⟩
        refine Or.inr ⟨policy, hpolicy, ?_⟩
        rw [hscore, hformat, hscan]
        rfl

/-! ### Texts and bytes -/

/-- A text that stops the reader, and why: it is not blank, and a scalar in it denotes no value of
its kind or its value is refused. -/
def TextRefused (load : Loader) (text : String) (f : Fault) : Prop :=
  Text.isBlankText text.toList = false ∧
    (load text = .error f ∧ f ≠ .malformed ∨
      f = .longNumeral ∧ ∃ v, load text = .ok v ∧ ValueRefused v)

theorem not_valueRefused_null : ¬ValueRefused .null := fun h => Bool.false_ne_true h.isMap

/-- **The texts that stop the reader**, and why. -/
theorem ofText_eq_error_iff (hstops : failure.Stops) {load : Loader} {root : Path}
    {name text : String} :
    ofText load root name text = .error failure ↔
      ∃ f, failure = .scalar f ∧ TextRefused load text f := by
  simp only [ofText, TextRefused]
  cases hblank : Text.isBlankText text.toList with
  | true => simp
  | false =>
    rw [if_neg Bool.false_ne_true]
    cases hload : load text with
    | error fault =>
      cases fault with
      | malformed =>
        refine iff_of_false (fun h => hstops _ (Except.error.inj h).symm) ?_
        simp +contextual
      | _ => simp +contextual [eq_comm]
    | ok v =>
      cases v with
      | null => simp [not_valueRefused_null]
      | boolean _ | integer _ | number _ | text _ | bytes _ | list _ | map _ | other =>
        simp [ofValue_eq_error_iff hstops]

/-- Bytes that stop the reader, and why: they are no text, or their text is refused. -/
inductive Refused (load : Loader) (content : List UInt8) : ConfigFailure → Prop
  | noText {e : Text.Utf8.DecodeError} (h : Text.Utf8.decode content = .error e) :
      Refused load content (.decode e)
  | text {cs : List Char} (h : Text.Utf8.decode content = .ok cs) {f : Fault}
      (hf : TextRefused load (String.ofList (Text.unifyBreaks cs)) f) :
      Refused load content (.scalar f)

theorem Refused.stops {load : Loader} {content : List UInt8} (h : Refused load content failure) :
    failure.Stops := by
  cases h with
  | noText _ | text _ _ => exact nofun

/-! ### Settings -/

variable {root : Path} {c : Config}

theorem root_of_ofValue (h : ofValue root v = .ok c) : c.root = root := by
  rw [ofValue] at h
  split at h
  · cases h
  · obtain ⟨policy, -, h⟩ := bind_eq_ok_iff.mp h
    obtain ⟨minScore, -, h⟩ := bind_eq_ok_iff.mp h
    obtain ⟨format, -, h⟩ := bind_eq_ok_iff.mp h
    obtain ⟨scan, -, h⟩ := bind_eq_ok_iff.mp h
    obtain rfl := Except.ok.inj h
    rfl

/-- The settings of a text are those of the project they are read for. -/
theorem root_of_ofText {load : Loader} {name text : String}
    (h : ofText load root name text = .ok c) : c.root = root := by
  rw [ofText] at h
  split at h
  · obtain rfl := Except.ok.inj h
    rfl
  · split at h
    · cases h
    · cases h
    · obtain rfl := Except.ok.inj h
      rfl
    · exact root_of_ofValue h

/-! ### Outcomes -/

/-- There are settings, or it is said what is wrong with the configuration. -/
def Reported (outcome : Except ConfigFailure Config) : Prop :=
  (∃ c, outcome = .ok c) ∨ ∃ e, outcome = .error (.config e)

theorem reported_iff {outcome : Except ConfigFailure Config} :
    Reported outcome ↔ ∀ failure, failure.Stops → outcome ≠ .error failure := by
  constructor
  · rintro (⟨c, rfl⟩ | ⟨e, rfl⟩) failure hstops h
    · cases h
    · exact hstops e (Except.error.inj h).symm
  · intro h
    cases outcome with
    | ok c => exact Or.inl ⟨c, rfl⟩
    | error failure =>
      by_contra hnot
      refine h failure (fun e he => hnot (Or.inr ⟨e, ?_⟩)) rfl
      rw [he]

end Config

end Preflight
