import Preflight.Yaml.Kind
import Preflight.Yaml.Phrase

/-!
# The graph of a document

A reference stands for the part of the document with its anchor, so that a document is a graph
of numbered nodes: a node may be reached on several ways, and from within itself.

## Main definitions

* `Node`, `Graph`: the nodes of a document.
* `Graph.ofPhrase`: the graph of a document.
* `Graph.pairsOf`: the pairs of a mapping, those merged into it among them.
-/

namespace Preflight.Yaml

/-- What a node holds, its parts by number. -/
inductive Content where
  | scalar (text : String)
  | sequence (items : List Nat)
  | mapping (pairs : List (Nat × Nat))
  deriving DecidableEq, Repr, Inhabited

/-- A node: its kind and what it holds. -/
structure Node where
  tag : Tag
  content : Content
  deriving DecidableEq, Repr, Inhabited

/-- A node is a scalar. -/
def Node.isScalar (n : Node) : Bool :=
  match n.content with
  | .scalar _ => true
  | _ => false

/-- The nodes of a document, each at its number. -/
abbrev Graph := List Node

/-- What has been numbered: the nodes, and the numbers of anchors. -/
structure Numbering where
  nodes : Graph := []
  anchors : List (String × Nat) := []
  deriving Inhabited

namespace Numbering

/-- A numbering with a new node, and the number of the node. An anchor must be new. -/
def add (s : Numbering) (anchor : Option String) (node : Node) : Except Fault (Nat × Numbering) :=
  let id := s.nodes.length
  let nodes := s.nodes ++ [node]
  match anchor with
  | none => .ok (id, { s with nodes })
  | some a =>
    if (s.anchors.lookup a).isSome then .error .malformed
    else .ok (id, { nodes, anchors := (a, id) :: s.anchors })

/-- A numbering with what a node holds filled in. -/
def fill (s : Numbering) (id : Nat) (content : Content) : Numbering :=
  { s with nodes := s.nodes.modify id fun node => { node with content } }

end Numbering

/-- The kind of a collection with marks, given the kind it has without them. -/
def collectionTag (marks : Marks) (default : Tag) : Tag :=
  match marks.tag with
  | none | some "!" => default
  | some t => .ofString t

/-- The kind of a scalar with marks. -/
def scalarTag (marks : Marks) (text : String) (plain : Bool) : Tag :=
  match marks.tag with
  | some "!" => .ofPlain text
  | some t => .ofString t
  | none => if plain then .ofPlain text else .text

mutual

/-- The number of a part of a document, with all parts of it numbered. -/
def number (s : Numbering) : Phrase → Except Fault (Nat × Numbering)
  | .reference name =>
    match s.anchors.lookup name with
    | some id => .ok (id, s)
    | none => .error .malformed
  | .scalar marks text plain => s.add marks.anchor ⟨scalarTag marks text plain, .scalar text⟩
  | .sequence marks items =>
    match s.add marks.anchor ⟨collectionTag marks .sequence, .sequence []⟩ with
    | .error e => .error e
    | .ok (id, s) =>
      match numberAll s items with
      | .error e => .error e
      | .ok (ids, s) => .ok (id, s.fill id (.sequence ids))
  | .mapping marks pairs =>
    match s.add marks.anchor ⟨collectionTag marks .mapping, .mapping []⟩ with
    | .error e => .error e
    | .ok (id, s) =>
      match numberPairs s pairs with
      | .error e => .error e
      | .ok (ids, s) => .ok (id, s.fill id (.mapping ids))

/-- The numbers of the items of a sequence. -/
def numberAll (s : Numbering) : List Phrase → Except Fault (List Nat × Numbering)
  | [] => .ok ([], s)
  | p :: rest =>
    match number s p with
    | .error e => .error e
    | .ok (id, s) =>
      match numberAll s rest with
      | .error e => .error e
      | .ok (ids, s) => .ok (id :: ids, s)

/-- The numbers of the pairs of a mapping. -/
def numberPairs (s : Numbering) :
    List (Phrase × Phrase) → Except Fault (List (Nat × Nat) × Numbering)
  | [] => .ok ([], s)
  | (k, v) :: rest =>
    match number s k with
    | .error e => .error e
    | .ok (key, s) =>
      match number s v with
      | .error e => .error e
      | .ok (value, s) =>
        match numberPairs s rest with
        | .error e => .error e
        | .ok (ids, s) => .ok ((key, value) :: ids, s)

end

/-- Every reference among some tokens is to an anchor before it, and no anchor comes twice. What an
anchor stands before has to begin among the tokens. -/
def refersWell (anchors : List String) : List Token → Bool
  | [] => true
  | .reference name :: ts => anchors.contains name && refersWell anchors ts
  | .anchor a :: ts =>
    if anchors.contains a then
      match ts with
      | [] | [.tag ..] => true
      | _ => false
    else refersWell (a :: anchors) ts
  | _ :: ts => refersWell anchors ts

namespace Graph

/-- The graph of a document, whose root is the first node. -/
def ofPhrase (p : Phrase) : Except Fault Graph := (number {} p).map fun (_, s) => s.nodes

/-- The node with a number. -/
def node (g : Graph) (id : Nat) : Node := g[id]?.getD ⟨.unknown, .scalar ""⟩

/-- The pairs of a mapping, with the pairs of the mappings merged into it before its own. A
mapping on the way to itself adds what it holds besides. -/
def pairsOf (g : Graph) : Nat → List Nat → Nat → Except Fault (List (Nat × Nat))
  | 0, _, _ => .error .malformed
  | fuel + 1, active, id =>
    match (g.node id).content with
    | .mapping pairs =>
      let isMerge := fun (pair : Nat × Nat) => (g.node pair.1).tag == .merge
      let own := pairs.filter (!isMerge ·)
      if active.contains id then .ok own
      else
        let merged : Except Fault (List (List (Nat × Nat))) :=
          (pairs.filter isMerge).mapM fun (_, source) =>
            match (g.node source).content with
            | .mapping _ => pairsOf g fuel (id :: active) source
            | .sequence items =>
              (items.mapM (pairsOf g fuel (id :: active))).map
                fun (parts : List (List (Nat × Nat))) => parts.reverse.flatten
            | .scalar _ => .error .malformed
        merged.map fun parts => parts.flatten ++ own
    | _ => .error .malformed

end Graph

end Preflight.Yaml
