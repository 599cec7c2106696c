import Mathlib.Data.Finset.Card
import Mathlib.Data.List.Induction
import Preflight.FileTree.Lookup
import Preflight.Graph.Cache

/-!
# Histories of a cache

A cache of import graphs is a map from the real paths of projects to graphs, whatever it was used
for before and however the roots of the projects were spelled. What it holds under a real path is
what was put there last, and only a builder that came to an end puts anything there. A builder is
asked for exactly what is lacking, and one that failed may be asked again.

The file tree may change from one call to the next, so that a spelling may come to mean another
project. Every call counts with the file tree of its own moment.

## Main definitions

* `GraphCache.Request`, `Call`, `Answer`: what a cache is asked for, when, and what it says.
* `GraphCache.perform`, `GraphCache.after`: one call, and many.
* `GraphCache.Puts`, `GraphCache.LastPut`: what a call puts under a key, and what was put there
  last.
* `GraphCache.returned`: how many builders came to an end.
* `GraphCache.AnswersAsMap`: the answers of a cache, in terms of its history alone.

## Main results

* `GraphCache.effect_perform`: what one call does to a cache.
* `GraphCache.get?_after_eq_some_iff`: what many calls leave under one key.
* `GraphCache.answers_as_map`: every answer after every history.
-/

namespace Preflight

namespace GraphCache

/-- What a cache is asked for. Roots are given as they are spelled. -/
inductive Request (ε : Type) where
  | get (root : String)
  | store (root : String) (g : Dependencies)
  | getOrBuild (root : String) (build : Path → Logged ε Dependencies)
  | contains (root : String)
  | size
  | clear

/-- What a cache says. -/
inductive Answer (ε : Type) where
  | graph (g : Option Dependencies)
  | outcome (x : Logged ε Dependencies)
  | truth (b : Bool)
  | number (n : Nat)
  | done
  /-- The root has no real path. -/
  | noKey (e : Workspace.PathError)

/-- A request, and the file tree at that moment. -/
structure Call (ε : Type) where
  workspace : Workspace
  request : Request ε

/-- The key of a root: its real path. -/
def keyOf (w : Workspace) (root : String) : Except Workspace.PathError Path :=
  w.resolve (Path.ofString root)

variable {ε : Type}

/-- The answer under a key, if there is one. Without a key nothing happens. -/
def atKey (c : GraphCache) (w : Workspace) (root : String)
    (f : Path → Answer ε × GraphCache) : Answer ε × GraphCache :=
  match keyOf w root with
  | .ok key => f key
  | .error e => (.noKey e, c)

/-- The answer to a call, and the cache after it. -/
def perform (c : GraphCache) (call : Call ε) : Answer ε × GraphCache :=
  match call.request with
  | .get root => c.atKey call.workspace root fun key => (.graph (c.get? key), c)
  | .store root g => c.atKey call.workspace root fun key => (.done, c.store key g)
  | .getOrBuild root build => c.atKey call.workspace root fun key =>
      (.outcome (c.getOrBuild key build).1, (c.getOrBuild key build).2)
  | .contains root => c.atKey call.workspace root fun key => (.truth (c.contains key), c)
  | .size => (.number c.size, c)
  | .clear => (.done, c.clear)

/-- The cache after some calls. -/
def after (c : GraphCache) (calls : List (Call ε)) : GraphCache :=
  calls.foldl (fun c call => (c.perform call).2) c

/-! ### What a history puts where -/

/-- A call drops everything. -/
def Request.isClear : Request ε → Bool
  | .clear => true
  | _ => false

/-- A call puts a graph under a key: it stores the graph there, or nothing is there and the builder
comes to an end with the graph. -/
def Puts (c : GraphCache) (call : Call ε) (key : Path) (g : Dependencies) : Prop :=
  match call.request with
  | .store root stored => keyOf call.workspace root = .ok key ∧ stored = g
  | .getOrBuild root build =>
    keyOf call.workspace root = .ok key ∧ c.get? key = none ∧ (build key).result = .ok g
  | _ => False

/-- A call leaves what is under a key: it neither drops everything nor puts anything there. -/
def Leaves (c : GraphCache) (call : Call ε) (key : Path) : Prop :=
  call.request.isClear = false ∧ ∀ g, ¬ c.Puts call key g

/-- Calls, one after the other, that leave what is under a key. -/
def LeaveAll (c : GraphCache) (key : Path) : List (Call ε) → Prop
  | [] => True
  | call :: rest => c.Leaves call key ∧ LeaveAll (c.perform call).2 key rest

/-- The graph that was put under a key last, and not dropped since. -/
def LastPut (calls : List (Call ε)) (key : Path) (g : Dependencies) : Prop :=
  ∃ earlier call later, calls = earlier ++ call :: later ∧
    (after {} earlier).Puts call key g ∧
    (after {} (earlier ++ [call])).LeaveAll key later

/-- A call has a builder come to an end. -/
def hasReturn (c : GraphCache) (call : Call ε) : Bool :=
  match call.request with
  | .getOrBuild root build =>
    match keyOf call.workspace root with
    | .ok key => (c.get? key).isNone && (build key).result.isOk
    | .error _ => false
  | _ => false

/-- The number of builders that come to an end in the course of some calls. -/
def returned (c : GraphCache) : List (Call ε) → Nat
  | [] => 0
  | call :: rest => (if c.hasReturn call then 1 else 0) + returned (c.perform call).2 rest

/-! ### Several calls -/

section Runs

variable {c : GraphCache} {call : Call ε} {calls : List (Call ε)} {key : Path}
  {g : Dependencies}

theorem after_append (c : GraphCache) (calls more : List (Call ε)) :
    c.after (calls ++ more) = (c.after calls).after more := by
  rw [after, after, after, List.foldl_append]

theorem after_concat (c : GraphCache) (calls : List (Call ε)) (call : Call ε) :
    c.after (calls ++ [call]) = ((c.after calls).perform call).2 := after_append c calls [call]

theorem leaveAll_concat : ∀ (c : GraphCache) (calls : List (Call ε)),
    c.LeaveAll key (calls ++ [call]) ↔ c.LeaveAll key calls ∧ (c.after calls).Leaves call key
  | _, [] => by
    simp only [List.nil_append, LeaveAll, and_true, true_and]
    rfl
  | c, first :: rest => by
    simp only [List.cons_append, LeaveAll, leaveAll_concat (c.perform first).2 rest, and_assoc]
    rfl

theorem returned_concat : ∀ (c : GraphCache) (calls : List (Call ε)),
    c.returned (calls ++ [call]) =
      c.returned calls + if (c.after calls).hasReturn call then 1 else 0
  | _, [] => by
    rw [List.nil_append, returned, returned, returned, Nat.add_comm]
    rfl
  | c, first :: rest => by
    rw [List.cons_append, returned, returned, returned_concat (c.perform first).2 rest,
      ← Nat.add_assoc]
    rfl

/-- A last put after one more call is put by this call, or was there before and is left. -/
theorem lastPut_concat : LastPut (calls ++ [call]) key g ↔
    (after {} calls).Puts call key g ∨
      LastPut calls key g ∧ (after {} calls).Leaves call key := by
  constructor
  · rintro ⟨earlier, put, later, hcalls, hput, hleave⟩
    -- the graph was put there by the last of all calls, or by one before it
    rcases List.eq_nil_or_concat later with rfl | ⟨later, last, rfl⟩
    · obtain ⟨rfl, hlast⟩ := List.append_inj' hcalls rfl
      obtain rfl : call = put := List.singleton_inj.mp hlast
      exact Or.inl hput
    · rw [List.concat_eq_append, ← List.cons_append, ← List.append_assoc] at hcalls
      obtain ⟨rfl, hlast⟩ := List.append_inj' hcalls rfl
      obtain rfl : call = last := List.singleton_inj.mp hlast
      rw [List.concat_eq_append, leaveAll_concat] at hleave
      refine Or.inr ⟨⟨earlier, put, later, rfl, hput, hleave.1⟩, ?_⟩
      rw [← after_append, List.append_assoc, List.singleton_append] at hleave
      exact hleave.2
  · rintro (hput | ⟨⟨earlier, put, later, rfl, hput, hleave⟩, hlast⟩)
    · exact ⟨calls, call, [], rfl, hput, trivial⟩
    · refine ⟨earlier, put, later ++ [call], by simp, hput, ?_⟩
      rw [leaveAll_concat, ← after_append, List.append_assoc, List.singleton_append]
      exact ⟨hleave, hlast⟩

theorem not_lastPut_nil : ¬ LastPut ([] : List (Call ε)) key g := by
  rintro ⟨earlier, call, later, hcalls, -⟩
  exact absurd hcalls (by simp)

end Runs

/-! ### One call -/

section Steps

variable {c next : GraphCache} {call : Call ε} {w : Workspace} {root : String} {key : Path}
  {g : Dependencies} {build : Path → Logged ε Dependencies}

theorem atKey_of_ok (h : keyOf w root = .ok key) (f : Path → Answer ε × GraphCache) :
    c.atKey w root f = f key := by
  rw [atKey, h]

theorem atKey_of_error {e : Workspace.PathError} (h : keyOf w root = .error e)
    (f : Path → Answer ε × GraphCache) : c.atKey w root f = (.noKey e, c) := by
  rw [atKey, h]

/-- Where every key leaves the cache as it is, so does a root. -/
theorem atKey_snd (f : Path → Answer ε × GraphCache) (hf : ∀ key, (f key).2 = c) :
    (c.atKey w root f).2 = c := by
  cases hkey : keyOf w root with
  | ok key => rw [atKey_of_ok hkey, hf]
  | error e => rw [atKey_of_error hkey]

theorem hasReturn_of_ok (h : keyOf w root = .ok key) :
    c.hasReturn ⟨w, .getOrBuild root build⟩ =
      ((c.get? key).isNone && (build key).result.isOk) := by
  rw [hasReturn]
  dsimp only
  rw [h]

theorem hasReturn_of_error {e : Workspace.PathError} (h : keyOf w root = .error e) :
    c.hasReturn ⟨w, .getOrBuild root build⟩ = false := by
  rw [hasReturn]
  dsimp only
  rw [h]

theorem puts_store_iff {stored : Dependencies} : c.Puts (⟨w, .store root stored⟩ : Call ε) key g ↔
    keyOf w root = .ok key ∧ stored = g := Iff.rfl

theorem puts_getOrBuild_iff : c.Puts ⟨w, .getOrBuild root build⟩ key g ↔
    keyOf w root = .ok key ∧ c.get? key = none ∧ (build key).result = .ok g := Iff.rfl

/-- What one call does to a cache. -/
inductive Effect (c : GraphCache) (call : Call ε) : GraphCache → Prop
  /-- Every graph is dropped. -/
  | drops : call.request.isClear = true → c.hasReturn call = false →
      (∀ key g, ¬ c.Puts call key g) → Effect c call c.clear
  /-- Nothing happens. -/
  | nothing : call.request.isClear = false → c.hasReturn call = false →
      (∀ key g, ¬ c.Puts call key g) → Effect c call c
  /-- One graph is put under one key. -/
  | puts (key : Path) (g : Dependencies) (more : Nat) : call.request.isClear = false →
      (more = if c.hasReturn call then 1 else 0) →
      (∀ key' g', c.Puts call key' g' ↔ key' = key ∧ g' = g) →
      Effect c call { c.store key g with builds := c.builds + more }

theorem effect_store (c : GraphCache) (w : Workspace) (root : String) (g : Dependencies) :
    c.Effect (⟨w, .store root g⟩ : Call ε) (c.perform (⟨w, .store root g⟩ : Call ε)).2 := by
  show Effect c _ (c.atKey w root fun key => ((.done : Answer ε), c.store key g)).2
  cases hkey : keyOf w root with
  | error e =>
    rw [atKey_of_error hkey]
    refine .nothing rfl rfl fun key g' hput => ?_
    rw [puts_store_iff, hkey] at hput
    exact absurd hput.1 (by simp)
  | ok key =>
    rw [atKey_of_ok hkey]
    refine .puts key g 0 rfl rfl fun key' g' => ?_
    rw [puts_store_iff, hkey, Except.ok.injEq, eq_comm, @eq_comm _ g]

theorem effect_getOrBuild (c : GraphCache) (w : Workspace) (root : String)
    (build : Path → Logged ε Dependencies) :
    c.Effect ⟨w, .getOrBuild root build⟩ (c.perform ⟨w, .getOrBuild root build⟩).2 := by
  show Effect c _ (c.atKey w root fun key =>
    (.outcome (c.getOrBuild key build).1, (c.getOrBuild key build).2)).2
  cases hkey : keyOf w root with
  | error e =>
    rw [atKey_of_error hkey]
    refine .nothing rfl (hasReturn_of_error hkey) fun key g hput => ?_
    rw [puts_getOrBuild_iff, hkey] at hput
    exact absurd hput.1 (by simp)
  | ok key =>
    -- what happens is up to what the key holds, and after that to the builder
    have hputs : ∀ key' g, c.Puts ⟨w, .getOrBuild root build⟩ key' g ↔
        key' = key ∧ c.get? key = none ∧ (build key).result = .ok g := by
      intro key' g
      rw [puts_getOrBuild_iff, hkey, Except.ok.injEq, eq_comm]
      exact and_congr_right fun heq => by rw [heq]
    have hreturn : c.hasReturn ⟨w, .getOrBuild root build⟩ =
        ((c.get? key).isNone && (build key).result.isOk) := hasReturn_of_ok hkey
    rw [atKey_of_ok hkey]
    cases hget : c.get? key with
    | some held =>
      rw [getOrBuild_eq_of_some hget]
      rw [hget] at hputs hreturn
      exact .nothing rfl hreturn fun key' g hput => absurd ((hputs key' g).mp hput).2.1 (by simp)
    | none =>
      rw [hget] at hputs hreturn
      cases hbuild : (build key).result with
      | error e =>
        rw [getOrBuild_eq_of_error hget hbuild]
        rw [hbuild] at hputs hreturn
        exact .nothing rfl hreturn fun key' g hput => absurd ((hputs key' g).mp hput).2.2 (by simp)
      | ok g =>
        rw [getOrBuild_eq_of_ok hget hbuild]
        rw [hbuild] at hputs hreturn
        refine .puts key g 1 rfl (by rw [hreturn]; rfl) fun key' g' => ?_
        rw [hputs, Except.ok.injEq, @eq_comm _ g]
        exact and_congr_right fun _ => and_iff_right rfl

/-- One call drops everything, does nothing or puts one graph under one key. -/
theorem effect_perform (c : GraphCache) (call : Call ε) : c.Effect call (c.perform call).2 := by
  obtain ⟨w, request⟩ := call
  cases request with
  | get root =>
    have hsame : (c.perform (⟨w, .get root⟩ : Call ε)).2 = c := atKey_snd _ fun _ => rfl
    rw [hsame]
    exact .nothing rfl rfl fun _ _ => id
  | contains root =>
    have hsame : (c.perform (⟨w, .contains root⟩ : Call ε)).2 = c := atKey_snd _ fun _ => rfl
    rw [hsame]
    exact .nothing rfl rfl fun _ _ => id
  | size => exact .nothing rfl rfl fun _ _ => id
  | clear => exact .drops rfl rfl fun _ _ => id
  | store root g => exact effect_store c w root g
  | getOrBuild root build => exact effect_getOrBuild c w root build

/-- **One call.** What is under a key after it was put there by it, or was there and is left. -/
theorem Effect.get?_eq_some_iff (h : c.Effect call next) : next.get? key = some g ↔
    c.Puts call key g ∨ c.get? key = some g ∧ c.Leaves call key := by
  cases h with
  | drops hclear _ hputs => simp [Leaves, hclear, hputs]
  | nothing hclear _ hputs => simp [Leaves, hclear, hputs]
  | puts key' g' more hclear _ hputs =>
    show (c.store key' g').get? key = some g ↔ _
    rw [get?_store, Leaves, hputs]
    simp only [hputs, hclear, true_and, not_and]
    by_cases heq : key = key'
    · simp [heq, eq_comm]
    · simp [heq]

/-- One call counts one more graph exactly where it has a builder come to an end. -/
theorem Effect.builds_eq (h : c.Effect call next) :
    next.builds = c.builds + if c.hasReturn call then 1 else 0 := by
  cases h with
  | drops _ hreturn _ => simp [hreturn]
  | nothing _ hreturn _ => simp [hreturn]
  | puts key g more _ hmore _ => rw [hmore]

end Steps

/-! ### The keys of a cache -/

/-- The projects with a graph, in the order of their first graph. -/
def keys (c : GraphCache) : List Path := c.entries.map (·.1)

theorem mem_keys_iff {c : GraphCache} {key : Path} : key ∈ c.keys ↔ ∃ g, c.get? key = some g := by
  rw [← Option.isSome_iff_exists, get?, List.lookup_isSome_iff, keys, List.mem_map]
  refine exists_congr fun entry => and_congr_right fun _ => ?_
  rw [beq_iff_eq, eq_comm]

theorem mem_map_fst_setEntry {project key : Path} {g : Dependencies}
    {entries : List (Path × Dependencies)} :
    key ∈ (setEntry project g entries).map (·.1) ↔
      key = project ∨ key ∈ entries.map (·.1) := by
  induction entries with
  | nil => simp [setEntry]
  | cons entry rest ih =>
    rw [setEntry]
    split
    · next h => simp [h]
    · simp only [List.map_cons, List.mem_cons, ih, or_left_comm]

theorem nodup_map_fst_setEntry {project : Path} {g : Dependencies}
    {entries : List (Path × Dependencies)} (h : (entries.map (·.1)).Nodup) :
    ((setEntry project g entries).map (·.1)).Nodup := by
  induction entries with
  | nil => simp [setEntry]
  | cons entry rest ih =>
    obtain ⟨hfresh, hrest⟩ := List.nodup_cons.mp h
    rw [setEntry]
    split
    · next heq => exact List.nodup_cons.mpr ⟨heq ▸ hfresh, hrest⟩
    · next hne =>
      refine List.nodup_cons.mpr ⟨?_, ih hrest⟩
      rw [mem_map_fst_setEntry]
      rintro (heq | hmem)
      · exact hne heq
      · exact hfresh hmem

/-- No call gives a key a second entry. -/
theorem Effect.nodup_keys {c next : GraphCache} {call : Call ε} (h : c.Effect call next)
    (hkeys : c.keys.Nodup) : next.keys.Nodup := by
  cases h with
  | drops => exact List.nodup_nil
  | nothing => exact hkeys
  | puts key g more => exact nodup_map_fst_setEntry hkeys

/-! ### Every history -/

/-- **Many calls.** What is under a key is what was put there last. -/
theorem get?_after_eq_some_iff (calls : List (Call ε)) (key : Path) (g : Dependencies) :
    (after {} calls).get? key = some g ↔ LastPut calls key g := by
  induction calls using List.reverseRecOn with
  | nil => exact iff_of_false (by simp [after, get?]) not_lastPut_nil
  | append_singleton calls call ih =>
    rw [after_concat, (effect_perform _ call).get?_eq_some_iff, lastPut_concat, ih]

theorem get?_after_eq_none_iff (calls : List (Call ε)) (key : Path) :
    (after {} calls).get? key = none ↔ ∀ g, ¬ LastPut calls key g := by
  rw [Option.eq_none_iff_forall_ne_some]
  exact forall_congr' fun g => not_congr (get?_after_eq_some_iff calls key g)

theorem builds_after (calls : List (Call ε)) :
    (after {} calls).builds = returned {} calls := by
  induction calls using List.reverseRecOn with
  | nil => rfl
  | append_singleton calls call ih =>
    rw [after_concat, (effect_perform _ call).builds_eq, returned_concat, ih]

theorem nodup_keys_after (calls : List (Call ε)) : (after {} calls).keys.Nodup := by
  induction calls using List.reverseRecOn with
  | nil => exact List.nodup_nil
  | append_singleton calls call ih =>
    rw [after_concat]
    exact (effect_perform _ call).nodup_keys ih

/-- What a cache says and does, in terms of the calls before. A root counts for its real path, and
for nothing else. -/
structure AnswersAsMap (calls : List (Call ε)) (c : GraphCache) : Prop where
  /-- The graph of a project is the one put there last, or none. -/
  get : ∀ w root key, keyOf w root = .ok key →
    ∃ held, c.perform (⟨w, .get root⟩ : Call ε) = (.graph held, c) ∧
      ∀ g, held = some g ↔ LastPut calls key g
  contains : ∀ w root key, keyOf w root = .ok key →
    ∃ b, c.perform (⟨w, .contains root⟩ : Call ε) = (.truth b, c) ∧
      (b = true ↔ ∃ g, LastPut calls key g)
  /-- The size is the number of projects with a graph. -/
  size : ∀ w, ∃ held : Finset Path, (∀ key, key ∈ held ↔ ∃ g, LastPut calls key g) ∧
    c.perform (⟨w, .size⟩ : Call ε) = (.number held.card, c)
  /-- Where there is a graph no builder is asked, whatever it would do. -/
  present : ∀ w root key g, keyOf w root = .ok key → LastPut calls key g →
    ∀ build : Path → Logged ε Dependencies,
      c.perform ⟨w, .getOrBuild root build⟩ = (.outcome (pure g), c)
  /-- Where there is none the builder is asked for the real path. If it comes to an end, there is
  one more graph and nothing else has changed. -/
  built : ∀ w root key g, keyOf w root = .ok key → (∀ g', ¬ LastPut calls key g') →
    ∀ build : Path → Logged ε Dependencies, (build key).result = .ok g →
      ∃ next, c.perform ⟨w, .getOrBuild root build⟩ = (.outcome (build key), next) ∧
        next.builds = c.builds + 1 ∧ next.get? key = some g ∧
        ∀ other, other ≠ key → next.get? other = c.get? other
  /-- If it fails, nothing at all has changed. -/
  failed : ∀ w root key e, keyOf w root = .ok key → (∀ g, ¬ LastPut calls key g) →
    ∀ build : Path → Logged ε Dependencies, (build key).result = .error e →
      c.perform ⟨w, .getOrBuild root build⟩ = (.outcome (build key), c)
  /-- What is counted are the builders that came to an end. -/
  builds : c.builds = returned {} calls

/-- **A cache is a map from real paths that builds what it lacks.** After any calls, over any file
trees and with any spellings, every answer is that of the map which holds under a real path what was
put there last, and graphs are counted as their builders come to an end. -/
theorem answers_as_map (calls : List (Call ε)) : AnswersAsMap calls (after {} calls) where
  get w root key hkey := by
    refine ⟨(after {} calls).get? key, ?_, get?_after_eq_some_iff calls key⟩
    rw [perform]
    exact atKey_of_ok hkey _
  contains w root key hkey := by
    refine ⟨(after {} calls).contains key, ?_, ?_⟩
    · rw [perform]
      exact atKey_of_ok hkey _
    · rw [GraphCache.contains, Option.isSome_iff_exists]
      exact exists_congr fun g => get?_after_eq_some_iff calls key g
  size w := by
    refine ⟨(after {} calls).keys.toFinset, fun key => ?_, ?_⟩
    · rw [List.mem_toFinset, mem_keys_iff]
      exact exists_congr fun g => get?_after_eq_some_iff calls key g
    · rw [List.toFinset_card_of_nodup (nodup_keys_after calls), keys, List.length_map]
      rfl
  present w root key g hkey hput build := by
    rw [← get?_after_eq_some_iff] at hput
    rw [perform]
    dsimp only
    rw [atKey_of_ok hkey, getOrBuild_eq_of_some hput]
  built w root key g hkey hnone build hbuild := by
    rw [← get?_after_eq_none_iff] at hnone
    refine ⟨{ (after {} calls).store key g with builds := (after {} calls).builds + 1 }, ?_, rfl,
      ?_, fun other hne => ?_⟩
    · rw [perform]
      dsimp only
      rw [atKey_of_ok hkey, getOrBuild_eq_of_ok hnone hbuild]
    · exact (get?_store _ _ _ _).trans (if_pos rfl)
    · exact (get?_store _ _ _ _).trans (if_neg hne)
  failed w root key e hkey hnone build hbuild := by
    rw [← get?_after_eq_none_iff] at hnone
    rw [perform]
    dsimp only
    rw [atKey_of_ok hkey, getOrBuild_eq_of_error hnone hbuild]
  builds := builds_after calls

/-- A project with one directory, seen from there, at home in the project. -/
def nestedDirectory : Workspace :=
  { top := .directory [("p", .directory [("sub", .directory [])])]
    current := ["p", "sub"]
    home := ["p"] }

/-- The graph of a project with one file. -/
def oneNode : Dependencies := .of [] [] ["a.ts"]

/-- A builder that fails, one that comes to an end and one that is not asked, under three spellings
of one project, and a graph stored in the place of the one that was built. -/
def spelledCalls : List (Call String) :=
  [⟨nestedDirectory, .getOrBuild "/p/sub/.." fun _ => .fail "broken"⟩,
    ⟨nestedDirectory, .getOrBuild "~" fun _ => pure .empty⟩,
    ⟨nestedDirectory, .getOrBuild "//p" fun _ => .fail "broken"⟩,
    ⟨nestedDirectory, .store ".." oneNode⟩,
    ⟨nestedDirectory, .store "." .empty⟩]

theorem answers_as_map_spelledCalls :
    keyOf nestedDirectory "/p/./" = .ok ⟨.top, ["p"]⟩ ∧
      (after {} spelledCalls).perform
          (⟨nestedDirectory, .getOrBuild "/p/./" fun _ => .fail "broken"⟩ : Call String) =
        (.outcome (pure oneNode), after {} spelledCalls) ∧
      (after {} spelledCalls).builds = 1 ∧ (after {} spelledCalls).size = 2 := by
  have hkey : keyOf nestedDirectory "/p/./" = .ok ⟨.top, ["p"]⟩ := by decide +kernel
  have hput : LastPut spelledCalls ⟨.top, ["p"]⟩ oneNode := by
    rw [← get?_after_eq_some_iff]
    decide +kernel
  exact ⟨hkey, (answers_as_map spelledCalls).present _ _ _ _ hkey hput _,
    (answers_as_map spelledCalls).builds.trans (by decide +kernel), by decide +kernel⟩

end GraphCache

end Preflight
