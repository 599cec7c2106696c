/-!
# Syntax trees

A node of a syntax tree has the name of its construct, the rows it spans, the role it plays in
its parent and its children in source order. Rows are counted from zero, by line feeds alone.

The text of a node is kept only where a reader asks for it: names, declaration keywords and
other single tokens.

## Main definitions

* `Node`: a syntax tree.
* `Node.at?`: the node at an address.
* `Node.preorder`: its nodes, a node before its descendants and children in source order.
* `Node.turn`, `Node.walk`: the same list, turn by turn, from an explicit stack of nodes still to
  visit.

## Main results

* `Node.pending_cons`, `Node.stackSize_turn`: what one turn gives out and leaves to visit.
* `Node.walk_eq_preorder`: the walk and the preorder agree.
-/

namespace Preflight.Source

/-- A node of a syntax tree. -/
inductive Node where
  /-- A node with its construct, whether the construct has a name of its own in the grammar
  (a bare punctuation mark has none), its role in the parent, its first and last row, its text
  and its children. -/
  | mk (kind : String) (named : Bool) (role : Option String) (startRow endRow : Nat)
      (text : Option String) (children : List Node)
  deriving Inhabited

namespace Node

/-- The construct. -/
def kind : Node → String
  | mk k _ _ _ _ _ _ => k

/-- The construct has a name of its own in the grammar. -/
def named : Node → Bool
  | mk _ n _ _ _ _ _ => n

/-- The role in the parent. -/
def role : Node → Option String
  | mk _ _ r _ _ _ _ => r

/-- The first row, from zero. -/
def startRow : Node → Nat
  | mk _ _ _ s _ _ _ => s

/-- The last row, from zero. -/
def endRow : Node → Nat
  | mk _ _ _ _ e _ _ => e

/-- The text, empty where none is kept. -/
def text : Node → String
  | mk _ _ _ _ _ t _ => t.getD ""

/-- The children in source order. -/
def children : Node → List Node
  | mk _ _ _ _ _ _ c => c

/-- The same node in another role. -/
def withRole (r : String) : Node → Node
  | mk k n _ s e t c => mk k n (some r) s e t c

/-- The same node with its text kept. -/
def withText (t : String) : Node → Node
  | mk k n r s e _ c => mk k n r s e (some t) c

/-- The first child that plays a role. -/
def child? (n : Node) (r : String) : Option Node :=
  n.children.find? (·.role == some r)

/-- The children whose construct has a name of its own. -/
def namedChildren (n : Node) : List Node :=
  n.children.filter (·.named)

/-- The line a node starts on, counted from one. -/
def line (n : Node) : Nat := n.startRow + 1

/-- The number of lines a node touches. -/
def lineCount (n : Node) : Int := (n.endRow : Int) - n.startRow + 1

/-! ### The nodes of a tree -/

/-- The node at an address, which says which child to take on every level. -/
def at? (n : Node) : List Nat → Option Node
  | [] => some n
  | i :: rest => n.children[i]?.bind fun c => c.at? rest

mutual

/-- A node followed by its descendants, each with its parent. -/
def preorder (parent : Option Node) : Node → List (Option Node × Node)
  | n@(mk _ _ _ _ _ _ c) => (parent, n) :: preorderAll (some n) c

/-- The nodes of a list of siblings and of their descendants, each with its parent. -/
def preorderAll (parent : Option Node) : List Node → List (Option Node × Node)
  | [] => []
  | n :: rest => preorder parent n ++ preorderAll parent rest

end

mutual

/-- The number of nodes of a tree. -/
def size : Node → Nat
  | mk _ _ _ _ _ _ c => sizeAll c + 1

/-- The number of nodes of a list of trees. -/
def sizeAll : List Node → Nat
  | [] => 0
  | n :: rest => size n + sizeAll rest

end

theorem size_eq (n : Node) : n.size = sizeAll n.children + 1 := by
  cases n; simp [size, children]

theorem preorderAll_eq_flatMap (parent : Option Node) (c : List Node) :
    preorderAll parent c = c.flatMap (preorder parent) := by
  induction c with
  | nil => rfl
  | cons n rest ih => rw [preorderAll, ih, List.flatMap_cons]

theorem preorder_eq (parent : Option Node) (n : Node) :
    preorder parent n = (parent, n) :: n.children.flatMap (preorder (some n)) := by
  cases n; rw [preorder, preorderAll_eq_flatMap, children]

/-! ### A stack of nodes still to visit -/

/-- The number of nodes below a stack of nodes still to visit. -/
def stackSize (stack : List (Option Node × Node)) : Nat :=
  (stack.map fun p => p.2.size).foldr (· + ·) 0

/-- What a stack stands for: the nodes below it, tree by tree from the top. -/
def pending (stack : List (Option Node × Node)) : List (Option Node × Node) :=
  stack.flatMap fun p => preorder p.1 p.2

/-- A stack after one turn of a walk: its top node is taken off, and the children of that node are
put on one after another, the last child first. -/
def turn : List (Option Node × Node) → List (Option Node × Node)
  | [] => []
  | (_, n) :: stack => n.children.reverse.foldl (fun stack c => (some n, c) :: stack) stack

theorem stackSize_cons (p : Option Node × Node) (stack : List (Option Node × Node)) :
    stackSize (p :: stack) = p.2.size + stackSize stack := by
  simp [stackSize]

theorem stackSize_append (s t : List (Option Node × Node)) :
    stackSize (s ++ t) = stackSize s + stackSize t := by
  induction s with
  | nil => simp [stackSize]
  | cons p s ih => rw [List.cons_append, stackSize_cons, stackSize_cons, ih, Nat.add_assoc]

theorem stackSize_map (parent : Option Node) (c : List Node) :
    stackSize (c.map fun n => (parent, n)) = sizeAll c := by
  induction c with
  | nil => rfl
  | cons n rest ih => simp [stackSize_cons, sizeAll, ih]

/-- The children end up on the stack in source order, the first one on top. -/
theorem turn_cons (parent : Option Node) (n : Node) (stack : List (Option Node × Node)) :
    turn ((parent, n) :: stack) = n.children.map (fun c => (some n, c)) ++ stack := by
  rw [turn, List.foldl_reverse, List.foldr_cons_eq_append]

/-- Every turn takes one node off what is below the stack. -/
theorem stackSize_turn (stack : List (Option Node × Node)) :
    stackSize (turn stack) = stackSize stack - 1 := by
  cases stack with
  | nil => rfl
  | cons p stack =>
    rw [turn_cons, stackSize_append, stackSize_map, stackSize_cons, size_eq]
    omega

theorem stackSize_pos (p : Option Node × Node) (stack : List (Option Node × Node)) :
    0 < stackSize (p :: stack) := by
  rw [stackSize_cons, size_eq]
  omega

/-- A stack stands for its top node, and for what is left after a turn. -/
theorem pending_cons (p : Option Node × Node) (stack : List (Option Node × Node)) :
    pending (p :: stack) = p :: pending (turn (p :: stack)) := by
  rw [turn_cons, pending, pending, List.flatMap_cons, preorder_eq, List.flatMap_append,
    List.flatMap_map, List.cons_append]

/-! ### Walking a tree -/

/-- The nodes that a walk gives out from a stack on: on every turn the top node. -/
def walkStack : List (Option Node × Node) → List (Option Node × Node)
  | [] => []
  | p :: stack => p :: walkStack (turn (p :: stack))
termination_by stack => stackSize stack
decreasing_by
  have := stackSize_pos p stack
  rw [stackSize_turn]
  omega

/-- The nodes of a tree, each with its parent, by a stack that starts with the root. -/
def walk (root : Node) : List (Option Node × Node) := walkStack [(none, root)]

theorem walkStack_eq_pending (stack : List (Option Node × Node)) :
    walkStack stack = pending stack := by
  fun_induction walkStack stack with
  | case1 => rfl
  | case2 p stack ih => rw [ih, pending_cons]

/-- The walk with a stack visits a tree in preorder. -/
theorem walk_eq_preorder (root : Node) : root.walk = root.preorder none := by
  rw [walk, walkStack_eq_pending, pending, List.flatMap_singleton]

end Node

end Preflight.Source
