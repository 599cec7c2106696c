import Preflight.Report.Render
import Preflight.Scan

/-!
# Configuration

A project is configured by a file at its top. What is missing there has a default; a policy, a
format or a limit that is not allowed is an error. Values of the wrong kind count as missing.

## Main definitions

* `Config`: the settings of a project.
* `Config.ofValue`: the settings a configuration value holds.
* `Workspace.loadConfig`: the settings of a project.
-/

namespace Preflight

open Preflight.Yaml

/-- The name of the configuration file of a project. -/
def configFileName : String := ".aiready.yml"

/-- The settings of a project. -/
structure Config where
  root : Path
  policy : Policy := .risk
  minScore : Option Int := none
  top : Option Int := none
  format : Format := .table
  scan : ScanSettings := {}
  deriving DecidableEq, Repr, Inhabited

/-- What is wrong with a configuration. -/
inductive ConfigError where
  | unreadable (name : String) (fault : FileFault)
  | unparsable (name : String)
  | notMapping
  | unknownPolicy (name : String)
  | minScoreOutOfRange
  | unknownFormat (name : String)
  deriving DecidableEq, Repr, Inhabited

/-- The wording of an error. -/
def ConfigError.message : ConfigError → String
  | unreadable name f => "Failed to read " ++ name ++ ": " ++ f.message
  | unparsable name => "Failed to parse " ++ name
  | notMapping => configFileName ++ " must contain a mapping at the root"
  | unknownPolicy name =>
    "Unknown policy '" ++ name ++ "' (expected one of: " ++
      ", ".intercalate (Policy.all.map (·.name)) ++ ")"
  | minScoreOutOfRange => "gate.min_score must be between 0 and 100"
  | unknownFormat name => "Unknown report format '" ++ name ++ "'"

/-- Why there are no settings: the configuration is wrong, or its file cannot be made sense of
at all. -/
inductive ConfigFailure where
  | config (error : ConfigError)
  | decode (error : Text.Utf8.DecodeError)
  | scalar (fault : Fault)
  | path (error : Workspace.PathError)
  deriving DecidableEq, Repr, Inhabited

/-- The wording of a failure. -/
def ConfigFailure.message : ConfigFailure → String
  | config e => e.message
  | decode e => e.message
  | scalar f => f.message
  | path e => e.message

namespace Yaml.Value

/-- The last value of a key. Anything but a mapping has no keys. -/
def get? (v : Value) (key : String) : Option Value :=
  match v with
  | map pairs =>
    let named := fun (k, _) => match k with | text s => s == key | _ => false
    (pairs.reverse.find? named).map (·.2)
  | _ => none

/-- A value is a mapping. -/
def isMap : Value → Bool
  | map _ => true
  | _ => false

/-- A whole number has too many digits to be written. -/
def isLong (n : Int) : Bool := Nat.pow 10 Text.digitLimit ≤ n.natAbs

/-- The text of a whole number that is not too long. -/
def integerText (n : Int) : Except Fault String :=
  if isLong n then .error .longNumeral else .ok (toString n)

/-- The text of a value that is text or a number. -/
def asText? : Value → Except Fault (Option String)
  | text s => .ok (some s)
  | integer n => (integerText n).map some
  | number v => .ok (some (Text.numberText v))
  | _ => .ok none

/-- The whole number that a value is or that its text denotes. -/
def asInt? : Value → Option Int
  | integer n => some n
  | text s => Text.readInt? s.toList
  | _ => none

/-- The text of a member of a list: truth values count as well. -/
def itemText? : Value → Except Fault (Option String)
  | boolean b => .ok (some (if b then "True" else "False"))
  | v => v.asText?

/-- The texts of a value: of one text, or of the members of a list that have one. -/
def asTexts : Value → Except Fault (List String)
  | text s => .ok [s]
  | list items => (items.mapM itemText?).map List.reduceOption
  | bytes bs => .ok (bs.map fun b => toString b.toNat)
  | _ => .ok []

end Yaml.Value

namespace Config

/-- A text of a member of a value, none where it is empty. -/
def textOf? (v : Value) (key : String) : Except ConfigFailure (Option String) :=
  match v.get? key with
  | some member => (member.asText?.map (·.filter (· ≠ ""))).mapError .scalar
  | none => .ok none

/-- The texts of a member of a value. -/
def textsOf (v : Value) (key : String) : Except ConfigFailure (List String) :=
  match v.get? key with
  | some member => member.asTexts.mapError .scalar
  | none => .ok []

/-- A whole number in a member of a value. -/
def intOf? (v : Value) (key : String) : Option Int := (v.get? key).bind (·.asInt?)

/-- A mapping in a member of a value; the empty one where there is none. -/
def sectionOf (v : Value) (key : String) : Value :=
  ((v.get? key).filter (·.isMap)).getD (.map [])

/-- The policy a configuration names. -/
def policyOf (v : Value) : Except ConfigFailure Policy := do
  let text ← textOf? v "policy"
  let name := Text.lowercase (text.getD Policy.risk.name)
  let policy := Policy.ofName name
  if policy.isKnown then .ok policy else .error (.config (.unknownPolicy name))

/-- The score below which a project fails, if a configuration has one. -/
def minScoreOf (v : Value) : Except ConfigFailure (Option Int) :=
  match intOf? (sectionOf v "gate") "min_score" with
  | some n => if 0 ≤ n && n ≤ 100 then .ok (some n) else .error (.config .minScoreOutOfRange)
  | none => .ok none

/-- The form of reports a configuration names. -/
def formatOf (v : Value) : Except ConfigFailure Format := do
  let text ← textOf? (sectionOf v "report") "format"
  let name := Text.lowercase (text.getD Format.table.name)
  match Format.ofName? name with
  | some f => .ok f
  | none => .error (.config (.unknownFormat name))

/-- A suffix with its dot. -/
def withDot (ext : String) : String := if ext.startsWith "." then ext else "." ++ ext

/-- What a scan looks for. An empty list of suffixes or of manifests counts as missing. -/
def scanOf (v : Value) : Except ConfigFailure ScanSettings := do
  let scan := sectionOf v "scan"
  let extensions ← textsOf scan "extensions"
  let excludePaths ← textsOf scan "exclude_paths"
  let manifests ← textsOf scan "manifest_files"
  pure
    { extensions := if extensions.isEmpty then defaultExtensions else extensions.map withDot
      excludePaths
      manifestFiles := if manifests.isEmpty then defaultManifests else manifests }

/-- The settings that a configuration value holds, for a project. -/
def ofValue (root : Path) (v : Value) : Except ConfigFailure Config :=
  if !v.isMap then .error (.config .notMapping)
  else do
    let policy ← policyOf v
    let minScore ← minScoreOf v
    let format ← formatOf v
    let scan ← scanOf v
    pure { root, policy, minScore, top := intOf? (sectionOf v "report") "top", format, scan }

/-- The settings that a configuration text holds, for a project and the name of its
configuration file. A blank text and one without a value hold none. -/
def ofText (load : Loader) (root : Path) (name text : String) : Except ConfigFailure Config :=
  if Text.isBlankText text.toList then .ok { root }
  else
    match load text with
    | .error .malformed => .error (.config (.unparsable name))
    | .error f => .error (.scalar f)
    | .ok .null => .ok { root }
    | .ok v => ofValue root v

end Config

namespace Workspace

/-- The configuration file for a path: the path itself if it has the name of one, else the file
of that name in the directory, or beside the file, at the path. -/
def configFile (w : Workspace) (p : Path) : Except PathError Path :=
  match w.expandHome p with
  | .error e => .error e
  | .ok p =>
    w.realPath
      (if w.isDirectory p then p.child configFileName
       else if p.name ≠ configFileName then p.parent.child configFileName
       else p)

/-- The settings of the project a path belongs to. -/
def loadConfig (w : Workspace) (p : Path) : Except ConfigFailure Config :=
  match w.configFile p with
  | .error e => .error (.path e)
  | .ok file =>
    match w.realPath file.parent with
    | .error e => .error (.path e)
    | .ok root =>
      match w.entry file with
      | .error _ => .ok { root }
      | .ok _ =>
        match w.readText file with
        | .ok text => Config.ofText w.readers.load root file.name text
        | .error (.file f) => .error (.config (.unreadable file.name f))
        | .error (.decode e) => .error (.decode e)

end Workspace

end Preflight
