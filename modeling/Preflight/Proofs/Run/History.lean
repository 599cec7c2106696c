import Preflight.Proofs.Run.Verdict

/-!
# Histories of an engine

An engine is used again and again while the files of a project change. Whatever happened before,
a run has the outcome that an engine never used before would have on the files as they are: the
cache is empty whenever no run is under way. Only the number of graphs is carried along, and it
counts the runs that came by a graph.

## Main definitions

* `Event`: a file is written, a file is deleted, or a target is analyzed.
* `Situation`, `Engine.step`, `Engine.play`: a project and a cache, after one event and after many.
* `Engine.outcomes`, `Engine.freshOutcomes`: what the runs of a history come to, with one engine
  and with a fresh one for every run.
* `Engine.comesByGraph`: a run comes by an import graph, if only by the empty one.

## Main results

* `Engine.step_entries`, `Engine.step_builds`: what one event does to the cache.
* `runs_never_leak`: every history, run by run and step by step.
-/

namespace Preflight

/-- Something that happens to a project and an engine. -/
inductive Event where
  | write (place : Place) (content : List UInt8)
  | delete (place : Place)
  | run (target policy : String)
  deriving DecidableEq, Repr

/-- The file tree after an event. A run leaves it as it is. -/
def Workspace.after (w : Workspace) : Event → Workspace
  | .write place content => { w with top := Entry.put (.file content) place w.top }
  | .delete place => { w with top := w.top.remove place }
  | .run .. => w

/-- A file tree, and the cache of the engine that is used on it. -/
structure Situation where
  workspace : Workspace
  cache : GraphCache

namespace Engine

/-- The cache after an event. Only a run touches it. -/
def cacheAfter (e : Engine) (s : Situation) : Event → GraphCache
  | .run target policy => (e.run s.workspace s.cache target policy).cache
  | _ => s.cache

/-- The situation after an event. -/
def step (e : Engine) (s : Situation) (event : Event) : Situation :=
  ⟨s.workspace.after event, e.cacheAfter s event⟩

/-- The situation after some events. -/
def play (e : Engine) (s : Situation) (events : List Event) : Situation := events.foldl e.step s

/-- The outcomes of the runs of a history, in order. -/
def outcomes (e : Engine) : Situation → List Event → List (Logged RunError AnalysisResult)
  | _, [] => []
  | s, event :: rest =>
    match event with
    | .run target policy =>
      (e.run s.workspace s.cache target policy).outcome :: e.outcomes (e.step s event) rest
    | _ => e.outcomes (e.step s event) rest

/-- The outcomes of the runs of a history, each of an engine that was never used before. -/
def freshOutcomes (e : Engine) : Workspace → List Event → List (Logged RunError AnalysisResult)
  | _, [] => []
  | w, event :: rest =>
    match event with
    | .run target policy =>
      (e.run w {} target policy).outcome :: e.freshOutcomes (w.after event) rest
    | _ => e.freshOutcomes (w.after event) rest

/-- A run comes by an import graph: its policy is known, its scan finds a project, and the graph
of the project is built or, after a failure that was foreseen, taken to be empty. -/
def comesByGraph (e : Engine) (w : Workspace) (target policy : String) : Bool :=
  (Policy.ofName policy).isKnown &&
    match w.scan e.settings target with
    | .error _ => false
    | .ok found =>
      match (e.builder w found.projectRoot).result with
      | .ok _ => true
      | .error failure => failure.isForeseen

/-- The number of graphs an event adds. -/
def graphsAdded (e : Engine) (w : Workspace) : Event → Nat
  | .run target policy => if e.comesByGraph w target policy then 1 else 0
  | _ => 0

end Engine

/-! ### One run -/

/-- A builder that may go on without a graph has one exactly where there is one or a failure was
foreseen. -/
theorem GraphBuilder.isOk_orEmpty (build : GraphBuilder) (w : Workspace) (project : Path) :
    (build.orEmpty w project).result.isOk =
      match (build w project).result with
      | .ok _ => true
      | .error failure => failure.isForeseen := by
  rw [orEmpty]
  cases h : (build w project).result with
  | ok g =>
    rw [Logged.result_recover_ok h]
    rfl
  | error failure =>
    rw [Logged.result_recover_error h, withoutGraph]
    dsimp only
    split
    · next hforeseen =>
      rw [hforeseen]
      rfl
    · next hunforeseen =>
      rw [Bool.eq_false_iff.mpr hunforeseen]
      rfl

namespace Engine

variable {e : Engine} {w : Workspace} {c c₁ c₂ : GraphCache}

theorem analyze_outcome_congr {target : ScanTarget} {policy : Policy}
    (h : c₁.get? target.projectRoot = c₂.get? target.projectRoot) :
    (e.analyze w c₁ target policy).outcome = (e.analyze w c₂ target policy).outcome := by
  rw [analyze, analyze]
  dsimp only
  rw [GraphCache.getOrBuild_congr h]

/-- Of the cache a run starts from, only the graphs count. -/
theorem run_outcome_congr (h : ∀ project, c₁.get? project = c₂.get? project)
    (target policy : String) :
    (e.run w c₁ target policy).outcome = (e.run w c₂ target policy).outcome := by
  rw [run, run]
  dsimp only
  split
  · cases ((w.notedScan e.settings target).mapError RunError.scan).result with
    | error f => rfl
    | ok found =>
      dsimp only
      rw [analyze_outcome_congr (h _)]
  · rfl

/-- A run that starts from an empty cache leaves an empty cache, wherever it ends. -/
theorem run_entries (h : c.entries = []) (target policy : String) :
    (e.run w c target policy).cache.entries = [] := by
  rw [run]
  dsimp only
  split
  · cases ((w.notedScan e.settings target).mapError RunError.scan).result with
    | error f => exact h
    | ok found => rfl
  · exact h

/-- A run that starts from an empty cache counts one more graph exactly where it comes by one. -/
theorem run_builds (h : c.entries = []) (target policy : String) :
    (e.run w c target policy).cache.builds =
      c.builds + if e.comesByGraph w target policy then 1 else 0 := by
  rw [run, comesByGraph]
  dsimp only
  split
  · next hknown =>
    rw [Logged.result_mapError, Workspace.result_notedScan, hknown, Bool.true_and]
    cases w.scan e.settings target with
    | error f => rfl
    | ok found =>
      have hgraph : (c.getOrBuild found.projectRoot (e.builder.orEmpty w)).2.builds =
          c.builds + if (e.builder.orEmpty w found.projectRoot).result.isOk then 1 else 0 :=
        GraphCache.builds_getOrBuild (GraphCache.get?_of_entries_eq_nil h _)
      rw [GraphBuilder.isOk_orEmpty] at hgraph
      exact hgraph
  · next hunknown =>
    rw [Bool.eq_false_iff.mpr hunknown]
    rfl

/-! ### One event -/

variable {s : Situation}

theorem step_entries (h : s.cache.entries = []) (event : Event) :
    (e.step s event).cache.entries = [] := by
  cases event with
  | write place content => exact h
  | delete place => exact h
  | run target policy => exact run_entries h target policy

theorem step_builds (h : s.cache.entries = []) (event : Event) :
    (e.step s event).cache.builds = s.cache.builds + e.graphsAdded s.workspace event := by
  cases event with
  | write place content => rfl
  | delete place => rfl
  | run target policy => exact run_builds h target policy

/-! ### Histories -/

theorem play_append_singleton (s : Situation) (events : List Event) (event : Event) :
    e.play s (events ++ [event]) = e.step (e.play s events) event := by
  rw [play, List.foldl_append, List.foldl_cons, List.foldl_nil, ← play]

/-- The files are what the writes and deletions made of them, whatever was analyzed. -/
theorem play_workspace (s : Situation) (events : List Event) :
    (e.play s events).workspace = events.foldl Workspace.after s.workspace := by
  induction events generalizing s with
  | nil => rfl
  | cons event rest ih => exact ih (e.step s event)

/-- The cache is empty after every history that started with an empty one. -/
theorem play_entries (h : s.cache.entries = []) (events : List Event) :
    (e.play s events).cache.entries = [] := by
  induction events generalizing s with
  | nil => exact h
  | cons event rest ih => exact ih (step_entries h event)

/-- Every run of a history has the outcome it would have with an engine that was never used. -/
theorem outcomes_eq_freshOutcomes (h : s.cache.entries = []) (events : List Event) :
    e.outcomes s events = e.freshOutcomes s.workspace events := by
  induction events generalizing s with
  | nil => rfl
  | cons event rest ih =>
    have hrest : e.outcomes (e.step s event) rest =
        e.freshOutcomes (s.workspace.after event) rest := ih (step_entries h event)
    cases event with
    | write place content => exact hrest
    | delete place => exact hrest
    | run target policy =>
      have hrun : (e.run s.workspace s.cache target policy).outcome =
          (e.run s.workspace {} target policy).outcome := by
        refine run_outcome_congr (fun project => ?_) target policy
        rw [GraphCache.get?_of_entries_eq_nil h, GraphCache.get?_of_entries_eq_nil rfl]
      rw [outcomes, freshOutcomes, hrun, hrest]

end Engine

/-- **Runs never leak into each other.** In every history of files written, files deleted and
targets analyzed by an engine whose cache was empty at the start, whatever number of graphs it
had counted, every run has the outcome, be it a result or an error, of an engine that was never
used before, on the files as they are at that moment. Between any two events the cache is empty,
and the count of graphs grows by one with each run that comes by a graph and with nothing
else. -/
theorem runs_never_leak (e : Engine) (w : Workspace) (counted : Nat) (events : List Event) :
    e.outcomes ⟨w, ⟨[], counted⟩⟩ events = e.freshOutcomes w events ∧
    ∀ before event later, events = before ++ event :: later →
      (e.play ⟨w, ⟨[], counted⟩⟩ before).cache.entries = [] ∧
      (e.play ⟨w, ⟨[], counted⟩⟩ (before ++ [event])).cache.entries = [] ∧
      (e.play ⟨w, ⟨[], counted⟩⟩ (before ++ [event])).cache.builds =
        (e.play ⟨w, ⟨[], counted⟩⟩ before).cache.builds +
          e.graphsAdded (before.foldl Workspace.after w) event := by
  refine ⟨Engine.outcomes_eq_freshOutcomes rfl events, ?_⟩
  rintro before event later -
  have hbefore : (e.play ⟨w, ⟨[], counted⟩⟩ before).cache.entries = [] :=
    Engine.play_entries rfl before
  refine ⟨hbefore, Engine.play_entries rfl _, ?_⟩
  rw [Engine.play_append_singleton, Engine.step_builds hbefore, Engine.play_workspace]

end Preflight
