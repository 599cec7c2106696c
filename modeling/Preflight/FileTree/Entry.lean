/-!
# File trees

A file tree as a value: files with their bytes, links with the text they point to, and
directories with named entries. Where a name occurs twice in a directory, the first entry
counts.

## Main definitions

* `Entry`: what a name stands for.
* `Place`: the segments that lead from the top of the tree to an entry.
* `Entry.at?`: the entry at a place, links not followed.
* `Entry.put`, `Entry.remove`: a tree after a change at a place.
-/

namespace Preflight

/-- What a name in a directory stands for. -/
inductive Entry where
  | file (content : List UInt8)
  | link (target : String)
  | directory (entries : List (String × Entry))
  deriving Inhabited

/-- The segments that lead from the top of a tree to an entry. -/
abbrev Place := List String

namespace Entry

/-- A directory without entries. -/
def emptyDirectory : Entry := directory []

/-- The entries of a directory, none for anything else. -/
def entries : Entry → List (String × Entry)
  | directory es => es
  | _ => []

/-- An entry is a directory. -/
def isDirectory : Entry → Bool
  | directory _ => true
  | _ => false

/-- An entry is a file. -/
def isFile : Entry → Bool
  | file _ => true
  | _ => false

/-- The entry a name stands for in a directory. -/
def child? (e : Entry) (name : String) : Option Entry := e.entries.lookup name

/-- The entry at a place, links not followed. -/
def at? (e : Entry) : Place → Option Entry
  | [] => some e
  | name :: rest => (e.child? name).bind fun c => c.at? rest

theorem at?_append (e : Entry) (p q : Place) :
    e.at? (p ++ q) = (e.at? p).bind fun c => c.at? q := by
  induction p generalizing e with
  | nil => rfl
  | cons name rest ih =>
    simp only [List.cons_append, at?]
    cases e.child? name with
    | none => rfl
    | some c => simpa using ih c

/-- Entries with the one of a name replaced, at the end where the name is new. -/
def setEntry (name : String) (e : Entry) : List (String × Entry) → List (String × Entry)
  | [] => [(name, e)]
  | (n, old) :: rest => if n = name then (name, e) :: rest else (n, old) :: setEntry name e rest

/-- A tree with an entry put at a place. Missing directories on the way are made; a file or a
link on the way stays, and nothing is put below it. -/
def put (new : Entry) : Place → Entry → Entry
  | [], _ => new
  | name :: rest, directory es =>
    directory (setEntry name (put new rest ((es.lookup name).getD emptyDirectory)) es)
  | _ :: _, e => e

/-- A tree with a directory made at a place, with the directories on the way; what is already
there stays. -/
def makeDirectory (place : Place) (e : Entry) : Entry :=
  match e.at? place with
  | some _ => e
  | none => put emptyDirectory place e

/-- A tree without the entry at a place. -/
def remove : Place → Entry → Entry
  | [], e => e
  | [name], directory es => directory (es.filter fun entry => entry.1 != name)
  | name :: rest, directory es =>
    match es.lookup name with
    | some c => directory (setEntry name (remove rest c) es)
    | none => directory es
  | _ :: _, e => e

mutual

/-- The number of links in a tree. -/
def linkCount : Entry → Nat
  | file _ => 0
  | link _ => 1
  | directory es => linkCountAll es

/-- The number of links below some entries. -/
def linkCountAll : List (String × Entry) → Nat
  | [] => 0
  | (_, e) :: rest => linkCount e + linkCountAll rest

end

end Entry

end Preflight
