import Preflight.Log.Setup

/-!
# Histories of a log

A program sets up its log again and again while it writes records and while the files around it
change. Setting up replaces the whole setup, or it fails and changes nothing: the setup is always
that of the last call that did not fail.

## Main definitions

* `FileHandlers`, `LogSetup.MadeBy`: the setup that is asked for, by the files at that time.
* `LogEvent`, `Logging.step`, `Logging.play`: a log after one event and after many.
* `Logging.NoneSucceeds`, `Logging.IsLastSetup`: the last call of a history that succeeds.

## Main results

* `Logging.call_of_opens`, `Logging.call_of_not_opens`: what one call does.
* `setup_of_lastCall`: every history, step by step.
-/

namespace Preflight

/-! ### What is asked for -/

/-- The handlers for the log file of a setup: none without a log file, and otherwise one for the
place where it opens. -/
inductive FileHandlers (w : Workspace) : Option Path → List Handler → Prop
  | none : FileHandlers w none []
  | some {p : Path} {place : Place} {w' : Workspace}
      (h : w.openToAppend (w.absolute p) = .ok (place, w')) :
      FileHandlers w (some p) [⟨.file place, .debug⟩]

/-- The log file of a setup opens, if there is one. -/
def Workspace.Opens (w : Workspace) (logFile : Option Path) : Prop :=
  ∃ handlers, FileHandlers w logFile handlers

/-- A setup is the one that is asked for while the files are these: it has one handler for the
console and those for the log file, and its level is the lowest of theirs. -/
structure LogSetup.MadeBy (s : LogSetup) (w : Workspace) (verbose : Bool) (logFile : Option Path) :
    Prop where
  handlers : ∃ files, FileHandlers w logFile files ∧
    s.handlers = LogSetup.consoleHandler verbose :: files
  level : ∃ lowest, s.level = some lowest ∧ (∃ h ∈ s.handlers, h.level = lowest) ∧
    ∀ h ∈ s.handlers, h.level.reaches lowest = true
  propagates : s.propagates = false

namespace LogSetup

/-- The lowest level of some handlers is the level of one of them, and all of theirs reach it. -/
theorem exists_lowestLevel_eq_some (h : Handler) (rest : List Handler) :
    ∃ lowest, lowestLevel (h :: rest) = some lowest ∧
      (∃ h' ∈ h :: rest, h'.level = lowest) ∧
      ∀ h' ∈ h :: rest, h'.level.reaches lowest = true := by
  induction rest generalizing h with
  | nil =>
    refine ⟨h.level, rfl, ⟨h, List.mem_singleton_self h, rfl⟩, ?_⟩
    rw [List.forall_mem_singleton]
    exact decide_eq_true (Nat.le_refl _)
  | cons next rest ih =>
    obtain ⟨l, hl, hattained, hbound⟩ := ih next
    have hlowest : lowestLevel (h :: next :: rest) =
        some (if l.reaches h.level = true then h.level else l) := by
      rw [lowestLevel, hl]
    by_cases hreaches : l.reaches h.level = true
    · rw [if_pos hreaches] at hlowest
      refine ⟨h.level, hlowest, ⟨h, List.mem_cons_self .., rfl⟩, ?_⟩
      refine List.forall_mem_cons.mpr ⟨decide_eq_true (Nat.le_refl _), fun h' hh' => ?_⟩
      exact decide_eq_true
        (Nat.le_trans (of_decide_eq_true hreaches) (of_decide_eq_true (hbound h' hh')))
    · rw [if_neg hreaches] at hlowest
      obtain ⟨h', hh', hlevel⟩ := hattained
      refine ⟨l, hlowest, ⟨h', List.mem_cons_of_mem _ hh', hlevel⟩, ?_⟩
      refine List.forall_mem_cons.mpr ⟨?_, hbound⟩
      have hlt := Nat.lt_of_not_le (fun hle => hreaches (decide_eq_true hle))
      exact decide_eq_true (Nat.le_of_lt hlt)

theorem madeBy_ofHandlers {w : Workspace} {logFile : Option Path} {files : List Handler}
    (h : FileHandlers w logFile files) (verbose : Bool) :
    (ofHandlers (consoleHandler verbose :: files)).MadeBy w verbose logFile where
  handlers := ⟨files, h, rfl⟩
  level := exists_lowestLevel_eq_some (consoleHandler verbose) files
  propagates := rfl

end LogSetup

namespace Logging

variable {l : Logging} {verbose : Bool} {logFile : Option Path}

/-! ### One call -/

theorem run_bind_ok {α β : Type} {x : Change α} {a : α} {l' : Logging}
    (h : x.run.run l = (.ok a, l')) (f : α → Change β) :
    (x >>= f).run.run l = (f a).run.run l' := by
  rw [ExceptT.run_bind, StateT.run_bind, h]
  rfl

theorem run_bind_error {α β : Type} {x : Change α} {fault : LogFault} {l' : Logging}
    (h : x.run.run l = (.error fault, l')) (f : α → Change β) :
    (x >>= f).run.run l = (.error fault, l') := by
  rw [ExceptT.run_bind, StateT.run_bind, h]
  rfl

theorem run_get (l : Logging) : (get : Change Logging).run.run l = (.ok l, l) := rfl

/-- A change of the setup for each of some handlers. -/
theorem run_forM_changeSetup (f : Handler → LogSetup → LogSetup) (handlers : List Handler)
    (l : Logging) :
    (handlers.forM fun h => changeSetup (f h)).run.run l =
      (.ok (), { l with setup := handlers.foldl (fun s h => f h s) l.setup }) := by
  induction handlers generalizing l with
  | nil => rfl
  | cons h handlers ih => exact ih { l with setup := f h l.setup }

theorem foldl_removeHandler (s : LogSetup) :
    s.handlers.foldl LogSetup.removeHandler s = { s with handlers := [] } := by
  generalize hhandlers : s.handlers = handlers
  induction handlers generalizing s with
  | nil => rw [List.foldl_nil, ← hhandlers]
  | cons h handlers ih =>
    have hrest : (s.removeHandler h).handlers = handlers := by
      rw [LogSetup.removeHandler, hhandlers, List.erase_cons_head]
    exact ih (s.removeHandler h) hrest

theorem foldl_addHandler (s : LogSetup) (handlers : List Handler) :
    handlers.foldl LogSetup.addHandler s = { s with handlers := s.handlers ++ handlers } := by
  induction handlers generalizing s with
  | nil => rw [List.foldl_nil, List.append_nil]
  | cons h handlers ih =>
    rw [List.foldl_cons, ih, LogSetup.addHandler, List.append_assoc, List.singleton_append]

/-- Once the handlers of a setup are made, all of the old one is replaced. -/
theorem call_of_newHandlers {handlers : List Handler} {l' : Logging}
    (h : (newHandlers verbose logFile).run.run l = (.ok handlers, l')) :
    l.call verbose logFile = (.ok (), ⟨LogSetup.ofHandlers handlers, l'.workspace⟩) := by
  rw [call, setUp, run_bind_ok h, run_bind_ok (run_get l'),
    run_bind_ok (run_forM_changeSetup (fun old s => s.removeHandler old) _ l'),
    run_bind_ok (run_forM_changeSetup (fun new s => s.addHandler new) handlers _),
    foldl_removeHandler, foldl_addHandler, List.nil_append]
  rfl

theorem call_of_newHandlers_error {fault : LogFault} {l' : Logging}
    (h : (newHandlers verbose logFile).run.run l = (.error fault, l')) :
    l.call verbose logFile = (.error fault, l') := by
  rw [call, setUp]
  exact run_bind_error h _

theorem newHandlers_none (verbose : Bool) (l : Logging) :
    (newHandlers verbose none).run.run l = (.ok [LogSetup.consoleHandler verbose], l) := rfl

theorem newHandlers_of_ok {p : Path} {place : Place} {w : Workspace}
    (h : l.workspace.openToAppend (l.workspace.absolute p) = .ok (place, w)) :
    (newHandlers verbose (some p)).run.run l =
      (.ok [LogSetup.consoleHandler verbose, ⟨.file place, .debug⟩],
        { l with workspace := w }) := by
  have hfile : (openLogFile p).run.run l =
      (.ok ⟨.file place, .debug⟩, { l with workspace := w }) := by
    rw [openLogFile, run_bind_ok (run_get l), h]
    rfl
  rw [newHandlers, run_bind_ok hfile]
  rfl

theorem newHandlers_of_error {p : Path} {fault : LogFault}
    (h : l.workspace.openToAppend (l.workspace.absolute p) = .error fault) :
    (newHandlers verbose (some p)).run.run l = (.error fault, l) := by
  have hfile : (openLogFile p).run.run l = (.error fault, l) := by
    rw [openLogFile, run_bind_ok (run_get l), h]
    rfl
  rw [newHandlers, run_bind_error hfile]

/-- A call whose log file opens replaces the setup by the one it asks for. -/
theorem call_of_opens (h : l.workspace.Opens logFile) :
    (l.call verbose logFile).1 = .ok () ∧
      (l.call verbose logFile).2.setup.MadeBy l.workspace verbose logFile := by
  obtain ⟨files, hfiles⟩ := h
  have hmade := LogSetup.madeBy_ofHandlers hfiles verbose
  cases hfiles with
  | none =>
    rw [call_of_newHandlers (newHandlers_none verbose l)]
    exact ⟨rfl, hmade⟩
  | some hopen =>
    rw [call_of_newHandlers (newHandlers_of_ok hopen)]
    exact ⟨rfl, hmade⟩

/-- A call whose log file does not open fails, says why, and changes nothing. -/
theorem call_of_not_opens (h : ¬ l.workspace.Opens logFile) :
    ∃ p fault, logFile = some p ∧
      l.workspace.openToAppend (l.workspace.absolute p) = .error fault ∧
      l.call verbose logFile = (.error fault, l) := by
  cases logFile with
  | none => exact absurd ⟨[], .none⟩ h
  | some p =>
    cases hopen : l.workspace.openToAppend (l.workspace.absolute p) with
    | ok opened => exact absurd ⟨_, .some hopen⟩ h
    | error fault =>
      exact ⟨p, fault, rfl, hopen, call_of_newHandlers_error (newHandlers_of_error hopen)⟩

/-- A session, which sets up its log once, gets the setup and the files that a call comes to. -/
theorem configure_eq (l : Logging) (verbose : Bool) (logFile : Option Path) :
    LogSetup.configure l.workspace verbose logFile =
      (l.call verbose logFile).1.map fun _ =>
        ((l.call verbose logFile).2.setup, (l.call verbose logFile).2.workspace) := by
  cases logFile with
  | none =>
    rw [call_of_newHandlers (newHandlers_none verbose l)]
    rfl
  | some p =>
    cases hopen : l.workspace.openToAppend (l.workspace.absolute p) with
    | ok opened =>
      rw [LogSetup.configure, hopen, call_of_newHandlers (newHandlers_of_ok hopen)]
      rfl
    | error fault =>
      rw [LogSetup.configure, hopen, call_of_newHandlers_error (newHandlers_of_error hopen)]
      rfl

end Logging

/-! ### Histories -/

/-- Something that happens to a log: it is set up, records are written, or the files around it
change. -/
inductive LogEvent where
  | setUp (verbose : Bool) (logFile : Option Path)
  | write (time : String) (records : List Record)
  | files (w : Workspace)

namespace Logging

/-- The log after an event. -/
def step (l : Logging) : LogEvent → Logging
  | .setUp verbose logFile => (l.call verbose logFile).2
  | .write time records => { l with workspace := l.setup.write time records l.workspace }
  | .files w => { l with workspace := w }

/-- The log after some events. -/
def play (l : Logging) (events : List LogEvent) : Logging := events.foldl step l

/-- No setup of a history succeeds. -/
def NoneSucceeds (l : Logging) (events : List LogEvent) : Prop :=
  ∀ before verbose logFile later, events = before ++ .setUp verbose logFile :: later →
    ¬ (l.play before).workspace.Opens logFile

theorem noneSucceeds_cons {l : Logging} {event : LogEvent} {rest : List LogEvent}
    (hevent : ∀ verbose logFile, event = .setUp verbose logFile → ¬ l.workspace.Opens logFile)
    (hrest : (l.step event).NoneSucceeds rest) : l.NoneSucceeds (event :: rest) := by
  intro before verbose logFile later heq
  cases before with
  | nil =>
    obtain ⟨rfl, -⟩ := List.cons.inj heq
    exact hevent verbose logFile rfl
  | cons first before =>
    obtain ⟨rfl, hsplit⟩ := List.cons.inj heq
    exact hrest before verbose logFile later hsplit

/-- An event either sets the log up or leaves its setup as it is. -/
theorem step_cases (l : Logging) (event : LogEvent) :
    (∃ verbose logFile, event = .setUp verbose logFile ∧ l.workspace.Opens logFile ∧
      (l.step event).setup.MadeBy l.workspace verbose logFile) ∨
    (∀ verbose logFile, event = .setUp verbose logFile → ¬ l.workspace.Opens logFile) ∧
      (l.step event).setup = l.setup := by
  cases event with
  | write time records => exact .inr ⟨nofun, rfl⟩
  | files w => exact .inr ⟨nofun, rfl⟩
  | setUp verbose logFile =>
    by_cases hopens : l.workspace.Opens logFile
    · exact .inl ⟨verbose, logFile, rfl, hopens, (call_of_opens hopens).2⟩
    · refine .inr ⟨?_, ?_⟩
      · rintro _ _ ⟨⟩
        exact hopens
      · obtain ⟨p, fault, -, -, hcall⟩ := call_of_not_opens hopens
        rw [step, hcall]

/-- A setup is that of the last call of a history that succeeds, made while the files were what they
were then, or the one at the start if none does. -/
def IsLastSetup (l : Logging) (events : List LogEvent) (s : LogSetup) : Prop :=
  (∃ before verbose logFile later, events = before ++ .setUp verbose logFile :: later ∧
    (l.play before).workspace.Opens logFile ∧
    ((l.play before).step (.setUp verbose logFile)).NoneSucceeds later ∧
    s.MadeBy (l.play before).workspace verbose logFile) ∨
  l.NoneSucceeds events ∧ s = l.setup

/-- Every history keeps the last setup that was made. -/
theorem isLastSetup_play (l : Logging) (events : List LogEvent) :
    l.IsLastSetup events (l.play events).setup := by
  induction events generalizing l with
  | nil => exact .inr ⟨fun before _ _ _ heq => absurd heq (by cases before <;> nofun), rfl⟩
  | cons event rest ih =>
    obtain ⟨before, verbose, logFile, later, rfl, hlast⟩ | ⟨hnone, hrest⟩ :=
      ih (l.step event)
    · exact .inl ⟨event :: before, verbose, logFile, later, rfl, hlast⟩
    · obtain ⟨verbose, logFile, rfl, hopens, hmade⟩ | ⟨hevent, hsame⟩ := step_cases l event
      · refine .inl ⟨[], verbose, logFile, rest, rfl, hopens, hnone, ?_⟩
        rw [← hrest] at hmade
        exact hmade
      · exact .inr ⟨noneSucceeds_cons hevent hnone, hrest.trans hsame⟩

end Logging

/-- **Setting up is all or nothing.** After every history the setup is that of the last call that
succeeded. The next call succeeds if its log file opens; otherwise it fails and changes nothing. -/
theorem setup_of_lastCall (l : Logging) (events : List LogEvent) :
    l.IsLastSetup events (l.play events).setup ∧
    ∀ verbose logFile,
      ((l.play events).workspace.Opens logFile →
        ((l.play events).call verbose logFile).1 = .ok ()) ∧
      (¬ (l.play events).workspace.Opens logFile →
        ∃ fault, (l.play events).call verbose logFile = (.error fault, l.play events)) := by
  refine ⟨Logging.isLastSetup_play l events, fun verbose logFile => ⟨?_, ?_⟩⟩
  · exact fun hopens => (Logging.call_of_opens hopens).1
  · intro hopens
    obtain ⟨p, fault, -, -, hcall⟩ := @Logging.call_of_not_opens _ verbose _ hopens
    exact ⟨_, hcall⟩

/-- A log file that does not open leaves the console as it was set up before. -/
example :
    ((Logging.mk {} { top := .directory [], current := [], home := [] }).play
      [.setUp true none, .setUp false (some (Path.ofString "missing/run.log"))]).setup =
        LogSetup.ofHandlers [⟨.console, .debug⟩] := by
  decide +kernel

end Preflight
