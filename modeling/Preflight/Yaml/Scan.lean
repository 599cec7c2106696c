import Preflight.Yaml.Token

/-!
# Scanning a configuration text

Indentation makes blocks, and a colon after something on one line makes a key of it. What may
become a key is remembered; when its colon comes, the mark of a key is put before the tokens
already read from there on.

## Main definitions

* `Scanner`: the state of a scan.
* `Scanner.step`: the next token and what comes with it.
* `scanTokens`: the tokens of a text.
-/

namespace Preflight.Yaml

open Cursor

/-- Something that may become a key: how many tokens come before it, whether it must become one,
and where it starts. -/
structure PossibleKey where
  tokenCount : Nat
  required : Bool
  index : Nat
  line : Nat
  column : Nat
  deriving Inhabited

/-- The state of a scan. The possible keys are those of the nested flow collections, each with
its level; the indentations are those of the open blocks, the innermost first. -/
structure Scanner where
  cursor : Cursor
  tokens : List Token := []
  flowLevel : Nat := 0
  indents : List Nat := []
  allowKey : Bool := true
  keys : List (Nat × PossibleKey) := []
  deriving Inhabited

/-- The number of characters a key may have on its line. -/
def keyLimit : Nat := 1024

namespace Scanner

/-- The scan goes on inside a flow collection. -/
def inFlow (s : Scanner) : Bool := s.flowLevel != 0

/-- The column at which the contents of the innermost open block may start to be nested. -/
def innerIndent (s : Scanner) : Nat :=
  match s.indents with
  | indent :: _ => indent + 1
  | [] => 0

/-- The scan with tokens added. -/
def emit (s : Scanner) (ts : List Token) : Scanner := { s with tokens := s.tokens ++ ts }

/-- The scan with characters passed. -/
def pass (s : Scanner) (n : Nat) : Scanner := { s with cursor := s.cursor.advanceBy n }

/-- The scan with keys allowed or not. -/
def allowing (s : Scanner) (b : Bool) : Scanner := { s with allowKey := b }

/-- The possible key of the current level forgotten. -/
def forgetKey (s : Scanner) : Except Fault Scanner :=
  if (s.keys.lookup s.flowLevel).any (·.required) then .error .malformed
  else .ok { s with keys := s.keys.filter (·.1 != s.flowLevel) }

/-- Possible keys forgotten that cannot become keys any more: their line has ended, or they are
too long. -/
def forgetStale (s : Scanner) : Except Fault Scanner :=
  let stale := fun (k : PossibleKey) =>
    k.line != s.cursor.line || keyLimit < s.cursor.index - k.index
  if s.keys.any fun (_, k) => stale k && k.required then .error .malformed
  else .ok { s with keys := s.keys.filter fun (_, k) => !stale k }

/-- What comes next remembered as a possible key. It must become one where a key of the
innermost block starts. -/
def rememberKey (s : Scanner) : Except Fault Scanner :=
  if s.allowKey then
    let c := s.cursor
    let required := !s.inFlow && s.indents.head? == some c.column
    s.forgetKey.map fun s =>
      { s with keys :=
          (s.flowLevel, ⟨s.tokens.length, required, c.index, c.line, c.column⟩) :: s.keys }
  else .ok s

/-- Blocks closed that are indented more than a column; all of them where there is none. -/
def closeBlocks (s : Scanner) (column : Option Nat) : Scanner :=
  if s.inFlow then s
  else
    let stays := fun indent => column.any fun c => indent ≤ c
    let closed := s.indents.takeWhile fun indent => !stays indent
    { s with
      indents := s.indents.dropWhile fun indent => !stays indent
      tokens := s.tokens ++ closed.map fun _ => Token.blockEnd }

/-- A block opened at a column, if it is nested there, with its first token at a place. -/
def openBlock (s : Scanner) (column : Nat) (t : Token) (place : Nat) : Scanner :=
  if column < s.innerIndent then s
  else { s with
    indents := column :: s.indents
    tokens := s.tokens.take place ++ t :: s.tokens.drop place }

/-- Blanks, comments and line breaks passed. A line break allows a key in a block. -/
def skipGaps : Nat → Scanner → Scanner
  | 0, s => s
  | fuel + 1, s =>
    let c := s.cursor.skipBlanks
    let c := if c.peek == some '#' then c.skipLine else c
    if c.peek.any isBreak then
      skipGaps fuel { s with cursor := c.skipBreak.2, allowKey := s.allowKey || !s.inFlow }
    else { s with cursor := c }

/-- A mark of a document read, after all blocks are closed. -/
def documentToken (s : Scanner) (t : Token) (length : Nat) : Except Fault Scanner :=
  (s.closeBlocks none).forgetKey.map fun s => ((s.allowing false).pass length).emit [t]

/-- A flow collection opened. -/
def openFlow (s : Scanner) (t : Token) : Except Fault Scanner :=
  s.rememberKey.map fun s =>
    (({ s with flowLevel := s.flowLevel + 1 }.allowing true).pass 1).emit [t]

/-- A flow collection closed. -/
def closeFlow (s : Scanner) (t : Token) : Except Fault Scanner :=
  s.forgetKey.bind fun s =>
    if s.inFlow then
      .ok ((({ s with flowLevel := s.flowLevel - 1 }.allowing false).pass 1).emit [t])
    else .error .malformed

/-- An entry of a block sequence read. -/
def blockEntryToken (s : Scanner) : Except Fault Scanner :=
  if !s.inFlow && !s.allowKey then .error .malformed
  else
    let s := if s.inFlow then s
      else s.openBlock s.cursor.column .sequenceStart s.tokens.length
    (s.allowing true).forgetKey.map fun s => (s.pass 1).emit [.blockEntry]

/-- The mark of a key read. -/
def keyToken (s : Scanner) : Except Fault Scanner :=
  if !s.inFlow && !s.allowKey then .error .malformed
  else
    let s := if s.inFlow then s
      else s.openBlock s.cursor.column .mappingStart s.tokens.length
    (s.allowing !s.inFlow).forgetKey.map fun s => (s.pass 1).emit [.key]

/-- The mark of a value read. What was remembered as a possible key now is one. -/
def valueToken (s : Scanner) : Except Fault Scanner :=
  match s.keys.lookup s.flowLevel with
  | some k =>
    let s := { s with
      keys := s.keys.filter (·.1 != s.flowLevel)
      tokens := s.tokens.take k.tokenCount ++ Token.key :: s.tokens.drop k.tokenCount }
    let s := if s.inFlow then s else s.openBlock k.column .mappingStart k.tokenCount
    .ok (((s.allowing false).pass 1).emit [.value])
  | none =>
    if !s.inFlow && !s.allowKey then .error .malformed
    else
      let s := if s.inFlow then s
        else s.openBlock s.cursor.column .mappingStart s.tokens.length
      (s.allowing !s.inFlow).forgetKey.map fun s => (s.pass 1).emit [.value]

/-- A token read that may be a key or start one. -/
def nodeToken (s : Scanner) (read : Cursor → Except Fault (Token × Cursor)) :
    Except Fault Scanner :=
  s.rememberKey.bind fun s =>
    (read s.cursor).map fun (t, c) => ({ s with cursor := c }.allowing false).emit [t]

/-- A block scalar read. -/
def blockScalarToken (s : Scanner) (folded : Bool) : Except Fault Scanner :=
  (s.allowing true).forgetKey.bind fun s =>
    (readBlock folded s.innerIndent s.cursor).map fun (text, c) =>
      { s with cursor := c }.emit [.scalar (String.ofList text) false]

/-- A quoted scalar read. -/
def quotedToken (s : Scanner) (double : Bool) : Except Fault Scanner :=
  s.nodeToken fun c =>
    (readQuoted double c).map fun (text, c) => (.scalar (String.ofList text) false, c)

/-- A plain scalar read. A line that ends after it allows a key. -/
def plainToken (s : Scanner) : Except Fault Scanner :=
  s.rememberKey.map fun s =>
    let (text, ended, c) := readPlain s.inFlow s.innerIndent s.cursor
    ({ s with cursor := c }.allowing ended).emit [.scalar (String.ofList text) true]

/-- The characters that no plain scalar starts with. -/
def indicators : List Char :=
  "-?:,[]\x7b\x7d#&*!|>'\"%@".toList ++ [Char.ofNat 0x60]

/-- A plain scalar starts here. -/
def startsPlain (s : Scanner) (ch : Char) : Bool :=
  (!endsWord (some ch) && !indicators.contains ch) ||
    (!endsWord (s.cursor.peekAt 1) && (ch == '-' || (!s.inFlow && (ch == '?' || ch == ':'))))

/-- The next token read, given its first character. -/
def readToken (s : Scanner) (ch : Char) : Except Fault Scanner :=
  let c := s.cursor
  let spaced := endsWord (c.peekAt 1)
  if ch == '%' && c.column == 0 then
    (s.closeBlocks none).forgetKey.bind fun s =>
      (readDirective s.cursor).map fun (d, c) =>
        ({ s with cursor := c }.allowing false).emit [.directive d]
  else if c.column == 0 && c.atDocumentMark then
    s.documentToken (if ch == '-' then .documentStart else .documentEnd) 3
  else if ch == '[' then s.openFlow .flowSequenceStart
  else if ch == '\x7b' then s.openFlow .flowMappingStart
  else if ch == ']' then s.closeFlow .flowSequenceEnd
  else if ch == '\x7d' then s.closeFlow .flowMappingEnd
  else if ch == ',' then
    (s.allowing true).forgetKey.map fun s => (s.pass 1).emit [.flowEntry]
  else if ch == '-' && spaced then s.blockEntryToken
  else if ch == '?' && (s.inFlow || spaced) then s.keyToken
  else if ch == ':' && (s.inFlow || spaced) then s.valueToken
  else if ch == '*' then
    s.nodeToken fun c => (readName c).map fun (name, c) => (.reference name, c)
  else if ch == '&' then
    s.nodeToken fun c => (readName c).map fun (name, c) => (.anchor name, c)
  else if ch == '!' then s.nodeToken readTag
  else if ch == '|' && !s.inFlow then s.blockScalarToken false
  else if ch == '>' && !s.inFlow then s.blockScalarToken true
  else if ch == '\'' then s.quotedToken false
  else if ch == '"' then s.quotedToken true
  else if s.startsPlain ch then s.plainToken
  else .error .malformed

/-- The next token read; none at the end of the text. -/
def step (s : Scanner) : Except Fault (Scanner × Bool) :=
  (skipGaps (s.cursor.rest.length + 1) s).forgetStale.bind fun s =>
    let s := s.closeBlocks (some s.cursor.column)
    match s.cursor.peek with
    | none => (s.closeBlocks none).forgetKey.map fun s => (s, true)
    | some ch => (s.readToken ch).map fun s => (s, false)

/-- The number of tokens that are settled. The others are what may still become a key, and what
comes after that. -/
def settled (s : Scanner) : Nat :=
  match s.forgetStale with
  | .ok s => s.keys.foldl (fun n (_, k) => min n k.tokenCount) s.tokens.length
  | .error _ => 0

/-- The tokens read up to the end of the text. Where something went wrong, these are the tokens
that were settled before, and what it was. -/
def run : Nat → Scanner → List Token × Option Fault
  | 0, s => (s.tokens, some .malformed)
  | fuel + 1, s =>
    match s.step with
    | .error e => (s.tokens.take s.settled, some e)
    | .ok (s, true) => (s.tokens, none)
    | .ok (s, false) => run fuel s

end Scanner

/-- A character a configuration text may hold. -/
def isAllowed (c : Char) : Bool :=
  c == '\t' || c == '\n' || c == '\r' || (' ' ≤ c && c ≤ '~') || c == '\u0085' ||
    ('\u00a0' ≤ c && c ≤ '\ud7ff') || ('\ue000' ≤ c && c ≤ '\ufffd') ||
    0x10000 ≤ c.toNat

/-- The tokens of a text, and what went wrong after them if something did. -/
def scanTokens (text : List Char) : List Token × Option Fault :=
  if text.all isAllowed then
    let start : Cursor := ⟨text, 0, 0, 0⟩
    let start := if start.peek == some '\ufeff' then start.advance else start
    Scanner.run (text.length + 2) { cursor := start }
  else ([], some .malformed)

end Preflight.Yaml
