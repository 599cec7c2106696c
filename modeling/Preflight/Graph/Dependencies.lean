import Preflight.Graph.ImportGraph

/-!
# Dependencies between files

What the analysis of a file asks about the import graph: its cycles and its importers, looked up
by file id. An id that is known stands for itself alone. An id that is not known, such as one
without a suffix, stands for every known id with the same stem.

## Main definitions

* `Dependencies`, `Dependencies.of`: cycles, importers and files, with the two indexes that
  look-ups use.
* `Dependencies.resolve`, `inCycle`, `cycleMembers`, `importers`: the look-ups.
* `ImportGraph.dependencies`: the dependencies an import graph shows.
-/

namespace Preflight

/-- The cycles of a project, the importers of its files, and its files. The ids of every stem
and the cycles of every id are indexes made from these. -/
structure Dependencies where
  cycles : List (List FileId)
  incoming : List (FileId × List FileId)
  nodes : List FileId
  byStem : List (String × List FileId)
  cyclesById : List (FileId × List (List FileId))
  deriving DecidableEq, Repr, Inhabited

/-- An index with a value added at the end of the list of a key. -/
def addToIndex {β : Type} (key : String) (value : β) :
    List (String × List β) → List (String × List β)
  | [] => [(key, [value])]
  | (k, values) :: rest =>
    if k = key then (k, values ++ [value]) :: rest else (k, values) :: addToIndex key value rest

/-- The list of a key in an index. -/
def indexed {β : Type} (index : List (String × List β)) (key : String) : List β :=
  (index.lookup key).getD []

namespace Dependencies

/-- The files known through any of the three sources. -/
def knownIds (cycles : List (List FileId)) (incoming : List (FileId × List FileId))
    (nodes : List FileId) : List FileId :=
  sortedSet (nodes ++ incoming.map (·.1) ++ cycles.flatten)

/-- The ids of every stem, in order. -/
def stemIndex (known : List FileId) : List (String × List FileId) :=
  known.foldl (fun index id => addToIndex (FileId.stem id) id index) []

/-- The cycles of every id. -/
def cycleIndex (cycles : List (List FileId)) : List (FileId × List (List FileId)) :=
  cycles.foldl
    (fun index cycle => cycle.foldl (fun index id => addToIndex id cycle index) index) []

/-- The dependencies with given cycles, importers and files. -/
def of (cycles : List (List FileId)) (incoming : List (FileId × List FileId))
    (nodes : List FileId) : Dependencies :=
  { cycles, incoming, nodes
    byStem := stemIndex (knownIds cycles incoming nodes)
    cyclesById := cycleIndex cycles }

/-- No dependencies at all. -/
def empty : Dependencies := of [] [] []

/-- The known ids that an id stands for. -/
def resolve (g : Dependencies) (id : FileId) : List FileId :=
  let candidates := indexed g.byStem (FileId.stem id)
  if candidates.contains id then [id] else candidates

/-- An id is part of a cycle, if only by importing itself. -/
def inCycle (g : Dependencies) (id : FileId) : Bool :=
  (g.resolve id).any fun target => (g.cyclesById.lookup target).isSome

/-- The other files of the cycles an id is part of. -/
def cycleMembers (g : Dependencies) (id : FileId) : List FileId :=
  let targets := g.resolve id
  sortedSet ((targets.flatMap fun target => (indexed g.cyclesById target).flatten).filter
    fun member => !targets.contains member)

/-- The other files whose imports name an id. -/
def importers (g : Dependencies) (id : FileId) : List FileId :=
  let targets := g.resolve id
  sortedSet ((targets.flatMap (indexed g.incoming)).filter fun other => !targets.contains other)

end Dependencies

/-- The dependencies an import graph shows. -/
def ImportGraph.dependencies (g : ImportGraph) : Dependencies :=
  .of g.cycles g.incoming g.nodes

end Preflight
