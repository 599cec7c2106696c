import Preflight.Report.Payload
import Preflight.Run.Project
import Preflight.Text.Blank

/-!
# Service

The service answers requests with JSON. One address tells that it is alive, another gives the
report for a path. A request body is checked first: a path, and a policy and a limit that may be
left out. A limit may be given in any form that denotes a whole number.

## Main definitions

* `Posted`: the values a request body holds.
* `ReportRequest.ofBody?`: a request body that makes sense.
* `Workspace.respond`: the answer to a request.
-/

namespace Preflight

/-- A value in a request body. A number with a fraction or an exponent is kept as a whole number
and the number of its decimal places. -/
inductive Posted where
  | null
  | flag (b : Bool)
  | whole (n : Int)
  | decimal (digits : Int) (places : Nat)
  | text (s : String)
  | list
  | fields (members : List (String × Posted))
  deriving Inhabited

/-- A request. -/
structure Request where
  method : String
  address : String
  body : Option Posted
  deriving Inhabited

/-- An answer: its status, and its body where it has one that callers may rely on. -/
structure Response where
  status : Nat
  body : Option Json
  deriving Inhabited

/-! ### Request bodies -/

mutual

/-- A whole number in a value has too many digits to be read. -/
def Posted.hasLong : Posted → Bool
  | .whole n => Yaml.Value.isLong n
  | .fields members => Posted.anyLong members
  | _ => false

/-- A whole number in some member has too many digits to be read. -/
def Posted.anyLong : List (String × Posted) → Bool
  | [] => false
  | (_, v) :: rest => v.hasLong || Posted.anyLong rest

end

/-- A text without the point and the zeros after it at its end. -/
def withoutZeroPlaces (cs : List Char) : List Char :=
  match cs.dropWhile (· != '.') with
  | _ :: places => if places.all (· == '0') then cs.takeWhile (· != '.') else cs
  | [] => cs

/-- Digits with single underscores between them. -/
def areGroupedDigits : List Char → Bool
  | [] => false
  | [c] => c.isDigit
  | c :: '_' :: rest => c.isDigit && areGroupedDigits rest
  | c :: rest => c.isDigit && areGroupedDigits rest

/-- The whole number that a text denotes for a limit. -/
def limitOfText? (s : String) : Option Int :=
  let cs := withoutZeroPlaces (Text.strip s.toList)
  let value (ds : List Char) : Option Int :=
    if areGroupedDigits ds then
      some (Text.ofDigits 10 ((ds.filter (· != '_')).map fun c => c.toNat - 48) : Nat)
    else none
  match cs with
  | '-' :: ds => (value ds).map (-·)
  | '+' :: ds => value ds
  | ds => value ds

/-- The whole number that a value denotes for a limit. A number with decimal places has to be
whole and to fit into a word. -/
def limitOf? : Posted → Option Int
  | .whole n => some n
  | .flag b => some (if b then 1 else 0)
  | .decimal digits places =>
    let unit : Int := Nat.pow 10 places
    let bound : Int := Nat.pow 2 63
    if digits % unit = 0 && -bound < digits / unit && digits / unit < bound then
      some (digits / unit)
    else none
  | .text s => limitOf?.ofText s
  | _ => none
where
  /-- A text that is too long denotes no limit. -/
  ofText (s : String) : Option Int :=
    if Text.digitLimit < s.length then none else limitOfText? s

/-- What is asked of a report. -/
structure ReportRequest where
  path : String
  policy : Option String := none
  top : Option Int := none
  deriving DecidableEq, Repr, Inhabited

namespace ReportRequest

/-- A member of a request body, left out where it is null. -/
def member? (members : List (String × Posted)) (name : String) : Option Posted :=
  match members.lookup name with
  | some .null => none
  | found => found

/-- The policy that a request body names, if it makes sense. -/
def policyOf? (members : List (String × Posted)) : Option (Option String) :=
  match member? members "policy" with
  | none => some none
  | some (.text s) => some (some s)
  | some _ => none

/-- The limit that a request body names, if it makes sense. -/
def topOf? (members : List (String × Posted)) : Option (Option Int) :=
  match member? members "top" with
  | none => some none
  | some v => ((limitOf? v).filter (0 ≤ ·)).map some

/-- A request body that can be read and makes sense. -/
def ofBody? : Option Posted → Option ReportRequest
  | some (.fields members) =>
    if Posted.anyLong members then none
    else
      match members.lookup "path", policyOf? members, topOf? members with
      | some (.text path), some policy, some top => some { path, policy, top }
      | _, _, _ => none
  | _ => none

end ReportRequest

/-! ### Answers -/

/-- An answer that says what is wrong. -/
def Response.detail (status : Nat) (message : String) : Response :=
  ⟨status, some (.obj [("detail", .str message)])⟩

/-- The answer to a body that is not that of a request for a report: it cannot be read, or makes no
sense. -/
def bodyRefusal (body : Option Posted) : Response :=
  if body.any (·.hasLong) then .detail 400 "There was an error parsing the body" else ⟨422, none⟩

/-- The answer to a fault that nobody foresaw. -/
def Response.internalError : Response := ⟨500, none⟩

/-- The answer to a fault of a value in a configuration file. Only an ill-formed number or time
is a fault of whoever asks. -/
def faultResponse (f : Yaml.Fault) : Response :=
  if f.isBadValue then .detail 400 f.message else .internalError

/-- The answer where a run has no result. -/
def runErrorResponse (error : RunError) : Response :=
  match error with
  | .unknownPolicy _ => .detail 400 error.message
  | .scan (.notFound _) => .detail 404 error.message
  | .scan (.ignoreFile _) => .detail 400 error.message
  | .graph (.ignoreFile _) => .detail 400 error.message
  | _ => .internalError

/-- The answer where there is no report for a path. -/
def ReportRequest.refusal (request : ReportRequest) : ProjectError → Response
  | .notFound _ => .detail 404 ("path not found: " ++ request.path)
  | .config (.config e) => .detail 400 e.message
  | .config (.decode e) => .detail 400 e.message
  | .config (.scalar f) => faultResponse f
  | .config (.path _) => .internalError
  | .path _ => .internalError
  | .file _ => .internalError
  | .run e => runErrorResponse e

/-- The answer with a report: the report with the status that the command line would end with. -/
def ReportRequest.report (request : ReportRequest) (run : ProjectRun) : Response :=
  let top := request.top.orElse fun _ => run.config.top
  ⟨200, some (.obj ((run.result.limited top).members ++
    [("exit_code", .num (run.result.exitCode run.config.minScore))]))⟩

/-- An address without what follows a question mark, and without slashes at its end. -/
def routeOf (address : String) : String :=
  let cs := address.toList.takeWhile fun c => c != '?' && c != '#'
  String.ofList (cs.reverse.dropWhile (· == '/')).reverse

namespace Workspace

/-- The answer to a request for a report. -/
def respondReport (w : Workspace) (body : Option Posted) : Response :=
  match ReportRequest.ofBody? body with
  | none => bodyRefusal body
  | some request =>
    match (w.runProject request.path request.policy).result with
    | .ok run => request.report run
    | .error e => request.refusal e

/-- The answer to a request. -/
def respond (w : Workspace) (r : Request) : Response :=
  match routeOf r.address, r.method with
  | "/health", "GET" => ⟨200, some (.obj [("status", .str "ok")])⟩
  | "/scan", "POST" => w.respondReport r.body
  | "/health", _ => ⟨405, none⟩
  | "/scan", _ => ⟨405, none⟩
  | _, _ => .detail 404 "Not Found"

end Workspace

end Preflight
