import Preflight.Text.Search

/-!
# Paths

A path is a list of segments below an anchor: the current place, or the top of the file tree.
Empty segments and single dots say nothing and are dropped when a path is read; a pair of dots
stays, because what it means depends on the file tree.

## Main definitions

* `Path`, `Path.ofString`, `Path.text`: paths and their text.
* `Path.join`: a path seen from another.
* `Path.name`, `Path.suffix`, `Path.stem`: the last segment and its two parts.
* `Path.relativeTo?`: a path as seen from a directory above it.
* `Path.normalize`: a path with its pairs of dots carried out on the text alone.
-/

namespace Preflight

/-- Where a path starts. -/
inductive Anchor where
  /-- The current place. -/
  | here
  /-- The top of the file tree. -/
  | top
  /-- The top of the file tree, written with two slashes. -/
  | doubled
  deriving DecidableEq, Repr, Inhabited

namespace Anchor

/-- The text of an anchor. -/
def text : Anchor → String
  | here => ""
  | top => "/"
  | doubled => "//"

/-- The anchor a text starts with. Three slashes and more are one. -/
def ofChars : List Char → Anchor
  | '/' :: '/' :: '/' :: _ => top
  | '/' :: '/' :: _ => doubled
  | '/' :: _ => top
  | _ => here

end Anchor

/-- A path. -/
structure Path where
  anchor : Anchor := .here
  segments : List String := []
  deriving DecidableEq, Repr, Inhabited

namespace Path

/-- A segment says where to go. -/
def isSegment (s : String) : Bool := s != "" && s != "."

/-- The segments of a text. -/
def segmentsOf (s : String) : List String := (Text.splitString '/' s).filter isSegment

/-- The path a text denotes. -/
def ofString (s : String) : Path := ⟨Anchor.ofChars s.toList, segmentsOf s⟩

/-- The text of a path. -/
def text (p : Path) : String :=
  match p.anchor, p.segments with
  | .here, [] => "."
  | a, segments => a.text ++ "/".intercalate segments

/-- A path starts at the top of the file tree. -/
def isAbsolute (p : Path) : Bool := p.anchor != .here

/-- A path seen from another. -/
def join (p q : Path) : Path :=
  if q.isAbsolute then q else { p with segments := p.segments ++ q.segments }

/-- A path with one more segment; none for an empty name. -/
def child (p : Path) (name : String) : Path :=
  if name = "" then p else { p with segments := p.segments ++ [name] }

/-- A path without its last segment. -/
def parent (p : Path) : Path := { p with segments := p.segments.dropLast }

/-- The last segment, empty where there is none. -/
def name (p : Path) : String := p.segments.getLast?.getD ""

/-- The part of a name from its last dot on. A dot at either end of the name does not count. -/
def suffixOf (name : String) : String :=
  let cs := name.toList
  let tail := cs.reverse.takeWhile (· ≠ '.')
  if tail.length + 1 < cs.length && tail.length ≠ 0 then String.ofList ('.' :: tail.reverse)
  else ""

/-- The last part of the last segment, from its dot on. -/
def suffix (p : Path) : String := suffixOf p.name

/-- The last segment without its suffix. -/
def stem (p : Path) : String :=
  String.ofList (p.name.toList.take (p.name.length - p.suffix.length))

/-- The segments of a list that come after those of another. -/
def dropSegments? : List String → List String → Option (List String)
  | rest, [] => some rest
  | [], _ :: _ => none
  | s :: rest, t :: more => if s = t then dropSegments? rest more else none

/-- A path as seen from a directory above it. -/
def relativeTo? (p root : Path) : Option Path :=
  if p.anchor = root.anchor then
    (dropSegments? p.segments root.segments).map fun segments => ⟨.here, segments⟩
  else none

/-- The text of a path as seen from a directory, where the directory is above it. -/
def seenFrom (p root : Path) : String := ((p.relativeTo? root).getD p).text

/-! ### Carrying out pairs of dots -/

/-- Segments with pairs of dots carried out, given the ones before them in reverse. Above the
top there is only the top; above the current place the dots stay. -/
def normalizeFrom (absolute : Bool) : List String → List String → List String
  | acc, [] => acc.reverse
  | acc, s :: rest =>
    if s = ".." then
      match acc with
      | [] => normalizeFrom absolute (if absolute then [] else [".."]) rest
      | t :: more =>
        if t = ".." then normalizeFrom absolute (".." :: t :: more) rest
        else normalizeFrom absolute more rest
    else normalizeFrom absolute (s :: acc) rest

/-- A path with its pairs of dots carried out on the text alone. -/
def normalize (p : Path) : Path :=
  { p with segments := normalizeFrom p.isAbsolute [] p.segments }

/-! ### Lemmas -/

theorem dropSegments?_append (root rest : List String) :
    dropSegments? (root ++ rest) root = some rest := by
  induction root with
  | nil => cases rest <;> rfl
  | cons s root ih => simp [dropSegments?, ih]

theorem dropSegments?_eq_some {segments root rest : List String} :
    dropSegments? segments root = some rest ↔ segments = root ++ rest := by
  constructor
  · intro h
    fun_induction dropSegments? segments root with
    | case1 => simp_all
    | case2 => cases h
    | case3 s more root ih => simp [ih h]
    | case4 => cases h
  · rintro rfl
    exact dropSegments?_append root rest

/-- A path below a directory is seen from it as what was joined to the directory. -/
theorem relativeTo?_join (root p : Path) (h : p.anchor = .here) :
    (root.join p).relativeTo? root = some p := by
  obtain ⟨anchor, segments⟩ := p
  subst h
  simp [join, isAbsolute, relativeTo?, dropSegments?_append]

/-- Segments in front that are no pairs of dots are kept until a later one leads out of them. -/
theorem normalizeFrom_append {front : List String} (h : ∀ s ∈ front, s ≠ "..") (absolute : Bool)
    (acc rest : List String) :
    normalizeFrom absolute acc (front ++ rest) =
      normalizeFrom absolute (front.reverse ++ acc) rest := by
  induction front generalizing acc with
  | nil => rfl
  | cons s front ih =>
    obtain ⟨hs, hfront⟩ := List.forall_mem_cons.mp h
    rw [List.cons_append, normalizeFrom.eq_def]
    dsimp only
    rw [if_neg hs, ih hfront, List.reverse_cons, List.append_assoc, List.singleton_append]

/-- A path without pairs of dots has none to be carried out. -/
theorem normalizeFrom_eq {segments : List String} (h : ∀ s ∈ segments, s ≠ "..")
    (absolute : Bool) (acc : List String) :
    normalizeFrom absolute acc segments = acc.reverse ++ segments := by
  have hfront := normalizeFrom_append h absolute acc []
  rw [List.append_nil] at hfront
  rw [hfront, normalizeFrom, List.reverse_append, List.reverse_reverse]

end Path

end Preflight
