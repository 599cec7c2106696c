import Preflight.Text.Numeral
import Preflight.Text.Utf8
import Preflight.Yaml.Scalar

/-!
# Tokens of a configuration text

## Main definitions

* `Token`: the tokens.
* `readDirective`, `readName`, `readTag`: the tokens that are more than a mark.
-/

namespace Preflight.Yaml

open Cursor

/-- What a directive says. -/
inductive Directive where
  | version (major : Nat)
  | tagHandle (handle expansion : String)
  | other
  deriving DecidableEq, Repr, Inhabited

/-- A token of a configuration text. -/
inductive Token where
  | directive (d : Directive)
  | documentStart
  | documentEnd
  | sequenceStart
  | mappingStart
  | blockEnd
  | flowSequenceStart
  | flowSequenceEnd
  | flowMappingStart
  | flowMappingEnd
  | blockEntry
  | flowEntry
  | key
  | value
  | reference (name : String)
  | anchor (name : String)
  | tag (handle : Option String) (suffix : String)
  | scalar (text : String) (plain : Bool)
  deriving DecidableEq, Repr, Inhabited

/-- A character of a name. -/
def isNameChar (c : Char) : Bool := c.isAlphanum || c == '-' || c == '_'

/-- A character of a tag. -/
def isTagChar (c : Char) : Bool :=
  c.isAlphanum || "-;/?:@&=+$,_.!~*'()[]%".toList.contains c

/-- The bytes that escapes with a percent sign denote, and the rest. -/
def percentBytes : Nat → List Char → Except Fault (List UInt8 × List Char)
  | 0, cs => .ok ([], cs)
  | fuel + 1, '%' :: a :: b :: rest =>
    match hexNumber? [a, b] with
    | some n => (percentBytes fuel rest).map fun (bytes, rest) => (n.toUInt8 :: bytes, rest)
    | none => .error .malformed
  | _ + 1, '%' :: _ => .error .malformed
  | _ + 1, cs => .ok ([], cs)

/-- The text of a tag with its escapes carried out. -/
def tagText : Nat → List Char → Except Fault (List Char)
  | 0, _ => .ok []
  | _ + 1, [] => .ok []
  | fuel + 1, c :: rest =>
    if c == '%' then
      match percentBytes fuel (c :: rest) with
      | .error e => .error e
      | .ok (bytes, rest) =>
        match Text.Utf8.decode bytes with
        | .ok cs => (tagText fuel rest).map (cs ++ ·)
        | .error _ => .error .malformed
    else (tagText fuel rest).map (c :: ·)

/-- A tag, which must not be empty, and the cursor after it. -/
def readTagText (c : Cursor) : Except Fault (String × Cursor) :=
  let raw := c.span isTagChar
  if raw.isEmpty then .error .malformed
  else (tagText (raw.length + 1) raw).map fun cs => (String.ofList cs, c.skip isTagChar)

/-- A handle that stands for the start of a tag, and the cursor after it. -/
def readHandle (c : Cursor) : Except Fault (String × Cursor) :=
  if c.peek != some '!' then .error .malformed
  else if c.peekAt 1 == some ' ' then .ok ("!", c.advance)
  else
    let name := c.advance.span isNameChar
    let after := c.advance.skip isNameChar
    if after.peek == some '!' then .ok (String.ofList ('!' :: name ++ ['!']), after.advance)
    else .error .malformed

/-- A run of digits and the cursor after it. -/
def readNumber (c : Cursor) : Except Fault (Nat × Cursor) :=
  let digits := c.span Char.isDigit
  if digits.isEmpty then .error .malformed
  else if Text.digitLimit < digits.length then .error (.tooManyDigits digits.length)
  else .ok (digits.foldl (fun n d => n * 10 + (d.toNat - 48)) 0, c.skip Char.isDigit)

/-- A directive, from its percent sign to the end of its line. -/
def readDirective (c : Cursor) : Except Fault (Directive × Cursor) := do
  let c := c.advance
  let name := c.span isNameChar
  let c := c.skip isNameChar
  if name.isEmpty || !endsSpaced c.peek then .error .malformed
  else
    let (d, c) ←
      if name == ['Y', 'A', 'M', 'L'] then do
        let (major, c) ← readNumber c.skipBlanks
        if c.peek != some '.' then .error .malformed
        else
          let (_, c) ← readNumber c.advance
          if endsSpaced c.peek then .ok (Directive.version major, c) else .error .malformed
      else if name == ['T', 'A', 'G'] then do
        let (handle, c) ← readHandle c.skipBlanks
        if c.peek != some ' ' then .error .malformed
        else
          let (expansion, c) ← readTagText c.skipBlanks
          if endsSpaced c.peek then .ok (Directive.tagHandle handle expansion, c)
          else .error .malformed
      else .ok (Directive.other, c.skipLine)
    let c ← skipComment c
    .ok (d, c)

/-- The characters that may follow the name of an anchor. -/
def endsName : Option Char → Bool
  | none => true
  | some c =>
    endsWord (some c) || c ∈ ['?', ':', ',', ']', '\x7d', '%', '@', Char.ofNat 0x60]

/-- The name after the mark of an anchor or of a reference to one. -/
def readName (c : Cursor) : Except Fault (String × Cursor) :=
  let c := c.advance
  let name := c.span isNameChar
  let c := c.skip isNameChar
  if name.isEmpty || !endsName c.peek then .error .malformed else .ok (String.ofList name, c)

/-- A tag, from its exclamation mark. -/
def readTag (c : Cursor) : Except Fault (Token × Cursor) := do
  let (handle, suffix, c) ←
    if c.peekAt 1 == some '<' then do
      let (suffix, c) ← readTagText (c.advanceBy 2)
      if c.peek == some '>' then .ok ((none : Option String), suffix, c.advance)
      else .error .malformed
    else if endsWord (c.peekAt 1) then .ok (none, "!", c.advance)
    else if (c.advance.span fun ch => !(isBreak ch || ch == ' ')).contains '!' then do
      let (handle, c) ← readHandle c
      let (suffix, c) ← readTagText c
      .ok (some handle, suffix, c)
    else do
      let (suffix, c) ← readTagText c.advance
      .ok (some "!", suffix, c)
  if endsSpaced c.peek then .ok (.tag handle suffix, c) else .error .malformed

end Preflight.Yaml
