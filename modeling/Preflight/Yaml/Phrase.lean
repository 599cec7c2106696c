import Preflight.Yaml.Scan

/-!
# The structure of a configuration text

Tokens are put together to one document: scalars, sequences and mappings, with the anchors and
tags that stand before them. References to anchors stay as they are.

## Main definitions

* `Phrase`: a part of a document.
* `parseDocument`: the document of a list of tokens, if it holds one.
-/

namespace Preflight.Yaml

/-- What may stand before a part of a document: an anchor and a tag. -/
structure Marks where
  anchor : Option String := none
  tag : Option String := none
  deriving DecidableEq, Repr, Inhabited

/-- A part of a document. -/
inductive Phrase where
  | reference (name : String)
  | scalar (marks : Marks) (text : String) (plain : Bool)
  | sequence (marks : Marks) (items : List Phrase)
  | mapping (marks : Marks) (pairs : List (Phrase × Phrase))
  deriving Inhabited

/-- The scalar that stands where nothing is written. -/
def Phrase.empty : Phrase := .scalar {} "" true

/-- What tag handles stand for. -/
abbrev Handles := List (String × String)

/-- The handles every document knows. -/
def defaultHandles : Handles := [("!", "!"), ("!!", "tag:yaml.org,2002:")]

/-- What is read of a document and the tokens after it, or the tokens at which reading stopped:
none, if it wanted more. -/
abbrev Reading (α : Type) := Except (List Token) (α × List Token)

/-- The tag a token stands for, if its handle is known. -/
def expandTag? (handles : Handles) (handle : Option String) (suffix : String) : Option String :=
  match handle with
  | none => some suffix
  | some h => (handles.lookup h).map (· ++ suffix)

/-- The marks with an anchor and a tag. Where the handle of the tag is not known, reading stops at
some tokens. -/
def marksWith (handles : Handles) (anchor handle : Option String) (suffix : String)
    (stop rest : List Token) : Reading Marks :=
  match expandTag? handles handle suffix with
  | some tag => .ok (⟨anchor, some tag⟩, rest)
  | none => .error stop

/-- The marks before a part of a document. The handle of a tag is looked at once it is known
whether an anchor comes next. -/
def readMarks (handles : Handles) : List Token → Reading Marks
  | .anchor a :: .tag h s :: rest => marksWith handles (some a) h s (.tag h s :: rest) rest
  | .anchor a :: rest => .ok (⟨some a, none⟩, rest)
  | .tag h s :: .anchor a :: rest => marksWith handles (some a) h s (.anchor a :: rest) rest
  | .tag h s :: rest => marksWith handles none h s rest rest
  | rest => .ok ({}, rest)

/-- Where a part of a document stands: inside a flow collection, inside a block, or in a block
mapping, where a sequence need not be indented. -/
inductive Context where
  | flow
  | block
  | mappingBlock
  deriving DecidableEq

/-- The next token is one of these, or there is none. -/
def nextIs (stops : List Token) : List Token → Bool
  | [] => true
  | t :: _ => stops.contains t

mutual

/-- A part of a document. -/
def readPhrase (handles : Handles) (context : Context) : Nat → List Token → Reading Phrase
  | 0, ts => .error ts
  | _ + 1, .reference name :: rest => .ok (.reference name, rest)
  | fuel + 1, ts =>
    match readMarks handles ts with
    | .error e => .error e
    | .ok (marks, ts) =>
      match context, ts with
      | .mappingBlock, .blockEntry :: _ =>
        (readOpenEntries handles fuel ts).map fun (items, ts) => (.sequence marks items, ts)
      | _, .scalar text plain :: ts => .ok (.scalar marks text (plain && marks.tag.isNone), ts)
      | _, .flowSequenceStart :: ts =>
        (readFlowItems handles true fuel ts).map fun (items, ts) => (.sequence marks items, ts)
      | _, .flowMappingStart :: ts =>
        (readFlowPairs handles true fuel ts).map fun (pairs, ts) => (.mapping marks pairs, ts)
      | .flow, ts => readNothing marks ts
      | _, .sequenceStart :: ts =>
        (readEntries handles fuel ts).map fun (items, ts) => (.sequence marks items, ts)
      | _, .mappingStart :: ts =>
        (readPairs handles fuel ts).map fun (pairs, ts) => (.mapping marks pairs, ts)
      | _, ts => readNothing marks ts

/-- Nothing, which may stand only after marks. -/
def readNothing (marks : Marks) (ts : List Token) : Reading Phrase :=
  if marks = {} then .error ts else .ok (.scalar marks "" marks.tag.isNone, ts)

/-- A part of a document, or the empty scalar before some tokens. -/
def readOr (handles : Handles) (context : Context) (stops : List Token) :
    Nat → List Token → Reading Phrase
  | 0, ts => .error ts
  | fuel + 1, ts =>
    if nextIs stops ts then .ok (.empty, ts) else readPhrase handles context fuel ts

/-- The entries of a block sequence and its end. -/
def readEntries (handles : Handles) : Nat → List Token → Reading (List Phrase)
  | 0, ts => .error ts
  | fuel + 1, .blockEntry :: ts =>
    match readOr handles .block [.blockEntry, .blockEnd] fuel ts with
    | .error e => .error e
    | .ok (item, ts) => (readEntries handles fuel ts).map fun (items, ts) => (item :: items, ts)
  | _ + 1, .blockEnd :: ts => .ok ([], ts)
  | _ + 1, ts => .error ts

/-- The entries of a sequence that is not indented. -/
def readOpenEntries (handles : Handles) : Nat → List Token → Reading (List Phrase)
  | 0, ts => .error ts
  | fuel + 1, .blockEntry :: ts =>
    match readOr handles .block [.blockEntry, .key, .value, .blockEnd] fuel ts with
    | .error e => .error e
    | .ok (item, ts) =>
      (readOpenEntries handles fuel ts).map fun (items, ts) => (item :: items, ts)
  | _ + 1, ts => .ok ([], ts)

/-- The value after a key, empty where there is none. -/
def readValue (handles : Handles) (context : Context) (stops : List Token) :
    Nat → List Token → Reading Phrase
  | 0, ts => .error ts
  | fuel + 1, .value :: ts => readOr handles context stops fuel ts
  | _ + 1, ts => .ok (.empty, ts)

/-- The pairs of a block mapping and its end. -/
def readPairs (handles : Handles) : Nat → List Token → Reading (List (Phrase × Phrase))
  | 0, ts => .error ts
  | fuel + 1, .key :: ts =>
    match readOr handles .mappingBlock [.key, .value, .blockEnd] fuel ts with
    | .error e => .error e
    | .ok (key, ts) =>
      match readValue handles .mappingBlock [.key, .value, .blockEnd] fuel ts with
      | .error e => .error e
      | .ok (value, ts) =>
        (readPairs handles fuel ts).map fun (pairs, ts) => ((key, value) :: pairs, ts)
  | _ + 1, .blockEnd :: ts => .ok ([], ts)
  | _ + 1, ts => .error ts

/-- The items of a flow sequence and its end. A pair may stand for a mapping that holds only
it. -/
def readFlowItems (handles : Handles) (first : Bool) : Nat → List Token → Reading (List Phrase)
  | 0, ts => .error ts
  | _ + 1, .flowSequenceEnd :: ts => .ok ([], ts)
  | fuel + 1, ts =>
    match if first then some ts else match ts with | .flowEntry :: ts => some ts | _ => none with
    | none => .error ts
    | some (.flowSequenceEnd :: ts) => .ok ([], ts)
    | some (.key :: ts) =>
      match readOr handles .flow [.value, .flowEntry, .flowSequenceEnd] fuel ts with
      | .error e => .error e
      | .ok (key, ts) =>
        match readValue handles .flow [.flowEntry, .flowSequenceEnd] fuel ts with
        | .error e => .error e
        | .ok (value, ts) =>
          (readFlowItems handles false fuel ts).map fun (items, ts) =>
            (.mapping {} [(key, value)] :: items, ts)
    | some ts =>
      match readPhrase handles .flow fuel ts with
      | .error e => .error e
      | .ok (item, ts) =>
        (readFlowItems handles false fuel ts).map fun (items, ts) => (item :: items, ts)

/-- The pairs of a flow mapping and its end. A key may stand alone. -/
def readFlowPairs (handles : Handles) (first : Bool) :
    Nat → List Token → Reading (List (Phrase × Phrase))
  | 0, ts => .error ts
  | _ + 1, .flowMappingEnd :: ts => .ok ([], ts)
  | fuel + 1, ts =>
    match if first then some ts else match ts with | .flowEntry :: ts => some ts | _ => none with
    | none => .error ts
    | some (.flowMappingEnd :: ts) => .ok ([], ts)
    | some (.key :: ts) =>
      match readOr handles .flow [.value, .flowEntry, .flowMappingEnd] fuel ts with
      | .error e => .error e
      | .ok (key, ts) =>
        match readValue handles .flow [.flowEntry, .flowMappingEnd] fuel ts with
        | .error e => .error e
        | .ok (value, ts) =>
          (readFlowPairs handles false fuel ts).map fun (pairs, ts) => ((key, value) :: pairs, ts)
    | some ts =>
      match readPhrase handles .flow fuel ts with
      | .error e => .error e
      | .ok (key, ts) =>
        (readFlowPairs handles false fuel ts).map fun (pairs, ts) => ((key, .empty) :: pairs, ts)

end

/-- The directives before a document, and the handles they define. -/
def readDirectives (versioned : Bool) (handles : Handles) : List Token → Reading Handles
  | .directive (.version major) :: ts =>
    if versioned || major != 1 then .error (.directive (.version major) :: ts)
    else readDirectives true handles ts
  | .directive (.tagHandle h e) :: ts =>
    if (handles.lookup h).isSome then .error (.directive (.tagHandle h e) :: ts)
    else readDirectives versioned (handles ++ [(h, e)]) ts
  | .directive .other :: ts => readDirectives versioned handles ts
  | ts => .ok (handles, ts)

/-- The tokens after end marks of documents. -/
def skipDocumentEnds : List Token → List Token
  | .documentEnd :: ts => skipDocumentEnds ts
  | ts => ts

/-- A directive is the next token. -/
def nextIsDirective : List Token → Bool
  | .directive _ :: _ => true
  | _ => false

/-- A document that may have a start mark, with what comes after it. -/
def readDocument (ts : List Token) : Reading (Option Phrase) :=
  let fuel := 4 * ts.length + 8
  if ts.isEmpty then .ok (none, [])
  else if nextIsDirective ts || ts.head? = some .documentStart then
    match readDirectives false [] ts with
    | .error e => .error e
    | .ok (handles, .documentStart :: ts) =>
      if nextIs [.documentStart, .documentEnd] ts || nextIsDirective ts then
        .ok (some .empty, ts)
      else
        (readPhrase (handles ++ defaultHandles) .block fuel ts).map fun (p, ts) => (some p, ts)
    | .ok (_, ts) => .error ts
  else (readPhrase defaultHandles .block fuel ts).map fun (p, ts) => (some p, ts)

/-- The document of a list of tokens, none where there are no tokens, or the tokens at which reading
stopped. More than one document is not allowed, and none may be announced. -/
def parseDocument (ts : List Token) : Except (List Token) (Option Phrase) :=
  match readDocument ts with
  | .error stop => .error stop
  | .ok (p, rest) =>
    match skipDocumentEnds rest with
    | [] => .ok p
    | rest =>
      match readDirectives false [] rest with
      | .error stop => .error stop
      | .ok (_, stop) => .error stop

end Preflight.Yaml
