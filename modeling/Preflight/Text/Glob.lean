/-!
# Wildcard patterns

A pattern is a text in which `*` stands for any characters, slashes and none included, `?` for
one character, and brackets for one character of a set. A bracket that is never closed stands
for itself.

Inside brackets, a hyphen between two characters stands for the characters from the first to the
second; an exclamation mark at the start turns the set round. A range that runs backwards is
empty: it and its two ends vanish from the set, and what follows closes the gap.

## Main definitions

* `Piece`: what a part of a pattern stands for.
* `Glob.parse`: the pieces of a pattern.
* `Glob.accepts`: a text follows a list of pieces.
* `globMatches`: a text follows a pattern.
-/

namespace Preflight.Text

/-- A member of a bracketed set. -/
inductive SetItem where
  | one (c : Char)
  | span (low high : Char)
  deriving DecidableEq, Repr

/-- A character belongs to a member of a set. -/
def SetItem.takes : SetItem → Char → Bool
  | one a, c => a == c
  | span low high, c => low ≤ c && c ≤ high

/-- What a part of a pattern stands for. -/
inductive Piece where
  | one (c : Char)
  | any
  | many
  | oneOf (negated : Bool) (items : List SetItem)
  deriving DecidableEq, Repr

/-- A piece other than `many` takes a character. -/
def Piece.takes : Piece → Char → Bool
  | one a, c => a == c
  | any, _ | many, _ => true
  | oneOf negated items, c => items.any (·.takes c) != negated

namespace Glob

/-! ### Bracketed sets -/

/-- A character of a set, or a hyphen that makes a range. -/
inductive SetToken where
  | char (c : Char)
  | dash
  deriving DecidableEq, Repr

/-- The chunks of a set between the hyphens that may make ranges. A hyphen needs a character
before it, and after one that makes a range the next can only come two characters on: the
number is how many characters must still be passed before a hyphen counts. -/
def chunks : Nat → List Char → List Char → List (List Char)
  | _, acc, [] => [acc.reverse]
  | 0, acc, '-' :: rest => acc.reverse :: chunks 2 [] rest
  | n, acc, c :: rest => chunks (n - 1) (c :: acc) rest

/-- Chunks with an empty last one given back as the hyphen before it. -/
def closeChunks : List (List Char) → List (List Char)
  | [] => []
  | [chunk] => [chunk]
  | [chunk, []] => [chunk ++ ['-']]
  | chunk :: more => chunk :: closeChunks more

/-- Chunks without the ranges that run backwards, from the last one on. -/
def dropBackward : List (List Char) → List (List Char)
  | [] => []
  | chunk :: more =>
    match dropBackward more with
    | [] => [chunk]
    | next :: others =>
      match chunk.getLast?, next with
      | some low, high :: rest =>
        if high < low then (chunk.dropLast ++ rest) :: others else chunk :: next :: others
      | _, _ => chunk :: next :: others

/-- The tokens of a set: the characters of its chunks, and a hyphen between two chunks. -/
def setTokens : List (List Char) → List SetToken
  | [] => []
  | [chunk] => chunk.map .char
  | chunk :: more => chunk.map .char ++ .dash :: setTokens more

/-- The character a token stands for where it makes no range. -/
def SetToken.literal : SetToken → Char
  | char c => c
  | dash => '-'

/-- The members of a set from its tokens. -/
def setItems : List SetToken → List SetItem
  | [] => []
  | t :: .dash :: u :: rest => .span t.literal u.literal :: setItems rest
  | t :: rest => .one t.literal :: setItems rest

/-- The tokens of what stands between brackets. -/
def bracketTokens (body : List Char) : List SetToken :=
  if body.contains '-' then
    setTokens (dropBackward (closeChunks
      (chunks (if body.head? = some '!' then 2 else 1) [] body)))
  else body.map .char

/-- What a bracketed set stands for. -/
def bracket (body : List Char) : Piece :=
  match bracketTokens body with
  | .char '!' :: rest => .oneOf true (setItems rest)
  | tokens => .oneOf false (setItems tokens)

/-! ### Patterns -/

/-- The number of characters after an opened bracket that never close it: an exclamation mark
and a bracket in the place of the first member. -/
def openLength (cs : List Char) : Nat :=
  let mark := if cs.head? = some '!' then 1 else 0
  if (cs.drop mark).head? = some ']' then mark + 1 else mark

/-- What stands between a bracket just opened and the one that closes it, and the rest. -/
def bracketBody? (cs : List Char) : Option (List Char × List Char) :=
  let more := cs.drop (openLength cs)
  match more.dropWhile (· ≠ ']') with
  | [] => none
  | _ :: rest => some (cs.take (openLength cs) ++ more.takeWhile (· ≠ ']'), rest)

theorem length_dropWhile_le {p : Char → Bool} (cs : List Char) :
    (cs.dropWhile p).length ≤ cs.length := by
  induction cs with
  | nil => simp
  | cons c rest ih =>
    simp only [List.dropWhile_cons]
    split
    · simp only [List.length_cons]; omega
    · simp

theorem bracketBody?_length {cs body rest : List Char}
    (h : bracketBody? cs = some (body, rest)) : rest.length < cs.length := by
  simp only [bracketBody?] at h
  split at h
  · cases h
  · rename_i c r hr
    obtain ⟨-, rfl⟩ := Prod.mk.inj (Option.some.inj h)
    have h1 := congrArg List.length hr
    have h2 := length_dropWhile_le (p := (fun c => decide (c ≠ ']'))) (cs.drop (openLength cs))
    simp only [List.length_cons, List.length_drop] at h1 h2
    omega

/-- The pieces of a pattern. -/
def parse : List Char → List Piece
  | [] => []
  | '*' :: rest => .many :: parse rest
  | '?' :: rest => .any :: parse rest
  | '[' :: rest =>
    match h : bracketBody? rest with
    | some (body, after) =>
      have := bracketBody?_length h
      bracket body :: parse after
    | none => .one '[' :: parse rest
  | c :: rest => .one c :: parse rest
termination_by cs => cs.length

/-- A text follows a list of pieces. -/
def accepts : List Piece → List Char → Bool
  | [], cs => cs.isEmpty
  | .many :: ps, [] => accepts ps []
  | .many :: ps, c :: cs => accepts ps (c :: cs) || accepts (.many :: ps) cs
  | _ :: _, [] => false
  | p :: ps, c :: cs => p.takes c && accepts ps cs
termination_by ps cs => ps.length + cs.length

end Glob

/-- A text follows a pattern. -/
def globMatches (pattern text : List Char) : Bool := Glob.accepts (Glob.parse pattern) text

end Preflight.Text
