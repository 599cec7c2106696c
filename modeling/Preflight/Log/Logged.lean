import Preflight.Log.Record

/-!
# Computations that keep a log

A computation with the records it leaves, in order, and its result. One that fails keeps the
records left up to there. The records never decide the result: the result of a composition is
the composition of the results.

## Main definitions

* `Logged`: a computation with its records.
* `Logged.debug`, `info`, `warning`: leaving a record.
* `Logged.each`: a computation for each member of a list.
* `Logged.recover`: going on after a failure.
-/

namespace Preflight

/-- A result, or why there is none, with the records left on the way. -/
structure Logged (ε α : Type) where
  records : List Record
  result : Except ε α
  deriving Inhabited

namespace Logged

variable {ε ε' α β : Type}

/-- A computation that leaves no record. -/
def ofExcept (x : Except ε α) : Logged ε α := ⟨[], x⟩

/-- A failure without a record. -/
def fail (e : ε) : Logged ε α := ⟨[], .error e⟩

/-- One computation after another. -/
def andThen (x : Logged ε α) (f : α → Logged ε β) : Logged ε β :=
  match x.result with
  | .ok a => ⟨x.records ++ (f a).records, (f a).result⟩
  | .error e => ⟨x.records, .error e⟩

instance : Monad (Logged ε) where
  pure a := ofExcept (.ok a)
  bind := andThen

@[simp] theorem result_ofExcept (x : Except ε α) : (ofExcept x).result = x := rfl

@[simp] theorem result_fail (e : ε) : (fail e : Logged ε α).result = .error e := rfl

@[simp] theorem result_pure (a : α) : (pure a : Logged ε α).result = .ok a := rfl

@[simp] theorem result_bind (x : Logged ε α) (f : α → Logged ε β) :
    (x >>= f).result = x.result >>= fun a => (f a).result := by
  change (andThen x f).result = _
  cases h : x.result <;> simp [andThen, h] <;> rfl

/-- A computation that leaves one record. -/
def leave (level : LogLevel) (part message : String) : Logged ε Unit :=
  ⟨[⟨level, part, message⟩], .ok ()⟩

/-- A record for those who look for the cause of a fault. -/
def debug (part message : String) : Logged ε Unit := leave .debug part message

/-- A record of what goes on. -/
def info (part message : String) : Logged ε Unit := leave .info part message

/-- A record of something that may be wrong. -/
def warning (part message : String) : Logged ε Unit := leave .warning part message

@[simp] theorem result_debug (part message : String) :
    (debug part message : Logged ε Unit).result = .ok () := rfl

@[simp] theorem result_info (part message : String) :
    (info part message : Logged ε Unit).result = .ok () := rfl

@[simp] theorem result_warning (part message : String) :
    (warning part message : Logged ε Unit).result = .ok () := rfl

/-- A computation for each member of a list, in order, up to the first failure. -/
def each (f : α → Logged ε β) : List α → Logged ε (List β)
  | [] => pure []
  | a :: rest => do
    let b ← f a
    let others ← each f rest
    pure (b :: others)

/-- A computation with its failure put in other terms. -/
def mapError (f : ε → ε') (x : Logged ε α) : Logged ε' α := ⟨x.records, x.result.mapError f⟩

@[simp] theorem result_mapError (f : ε → ε') (x : Logged ε α) :
    (x.mapError f).result = x.result.mapError f := rfl

/-- A computation that goes on after a failure. -/
def recover (x : Logged ε α) (f : ε → Logged ε' α) : Logged ε' α :=
  match x.result with
  | .ok a => ⟨x.records, .ok a⟩
  | .error e => ⟨x.records ++ (f e).records, (f e).result⟩

theorem result_recover_ok {x : Logged ε α} {a : α} (h : x.result = .ok a)
    (f : ε → Logged ε' α) : (x.recover f).result = .ok a := by
  simp [recover, h]

theorem result_recover_error {x : Logged ε α} {e : ε} (h : x.result = .error e)
    (f : ε → Logged ε' α) : (x.recover f).result = (f e).result := by
  simp [recover, h]

end Logged

end Preflight
