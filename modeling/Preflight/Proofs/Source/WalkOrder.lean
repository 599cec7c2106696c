import Mathlib.Data.List.Forall2
import Mathlib.Logic.Function.Iterate
import Preflight.Source.Facts

/-!
# The order of a walk through a syntax tree

A walk keeps a stack of nodes still to visit. On every turn it gives out the top node and puts the
children of that node in its place, the last child first. It ends after as many turns as the tree
has nodes, and what it has given out by then is the tree in preorder.

Two nodes of a tree can be equal, so nodes are told apart by their addresses: the list of the
children to take from the root down. A tree is in preorder when its addresses are sorted like the
words of a dictionary, since the address of a node is the start of those of its descendants, and
the addresses below two siblings first differ where the siblings do.

## Main definitions

* `Node.InPreorder`: a list of addresses is that of the nodes with a property, in preorder.
* `Node.parentAt?`, `Node.IsVisit`: the parent of the node at an address, and the visit of it.
* `Node.addresses`: all addresses of a tree.

## Main results

* `Node.pending_iterate_turn`, `Node.stackSize_iterate_turn`: what is left to visit after some
  turns, from any stack.
* `Node.inPreorder_addresses`: the addresses of a tree are in preorder.
* `Node.forall₂_isVisit`: the recursion visits the node at one address after another.
* `Node.walk_exact`: all of this about a walk, and about the functions that are found on it.
-/

namespace Preflight.Source

namespace Node

/-! ### Turn by turn -/

section turns

variable (stack : List (Option Node × Node)) (k : Nat)

theorem head?_pending : (pending stack).head? = stack.head? := by
  cases stack with
  | nil => rfl
  | cons p stack => rw [pending_cons, List.head?_cons, List.head?_cons]

/-- A turn takes the first of the nodes that are still to visit, and leaves the others in order. -/
theorem pending_turn : pending (turn stack) = (pending stack).tail := by
  cases stack with
  | nil => rfl
  | cons p stack => rw [pending_cons, List.tail_cons]

/-- **What is left after some turns** is what was to visit before, without as many nodes. -/
theorem pending_iterate_turn : pending (turn^[k] stack) = (pending stack).drop k := by
  induction k with
  | zero => rfl
  | succ k ih => rw [Function.iterate_succ_apply', pending_turn, ih, List.tail_drop]

/-- **What bounds the turns**: the nodes below the stack become fewer by one on every turn. -/
theorem stackSize_iterate_turn : stackSize (turn^[k] stack) = stackSize stack - k := by
  induction k with
  | zero => rfl
  | succ k ih => rw [Function.iterate_succ_apply', stackSize_turn, ih, Nat.sub_sub]

theorem stackSize_eq_zero_iff : stackSize stack = 0 ↔ stack = [] := by
  cases stack with
  | nil => exact iff_of_true rfl rfl
  | cons p stack =>
    exact iff_of_false (Nat.ne_of_gt (stackSize_pos p stack)) (List.cons_ne_nil p stack)

theorem iterate_turn_eq_nil_iff : turn^[k] stack = [] ↔ stackSize stack ≤ k := by
  rw [← stackSize_eq_zero_iff, stackSize_iterate_turn, Nat.sub_eq_zero_iff_le]

theorem head?_iterate_turn : (turn^[k] stack).head? = (pending stack)[k]? := by
  rw [← head?_pending, pending_iterate_turn, List.head?_drop]

end turns

/-! ### Addresses -/

/-- What holds of a node as soon as it holds of its children holds of every node. -/
@[elab_as_elim]
theorem inductionOn {motive : Node → Prop} (n : Node)
    (node : ∀ n, (∀ c ∈ n.children, motive c) → motive n) : motive n :=
  node n fun c _ => inductionOn c node
termination_by sizeOf n
decreasing_by
  cases n with
  | mk kind named role startRow endRow text children =>
    have hlt : sizeOf c < sizeOf children := List.sizeOf_lt_of_mem (by assumption)
    simp only [mk.sizeOf_spec]
    omega

mutual

/-- All addresses of a tree. -/
def addresses : Node → List (List Nat)
  | mk _ _ _ _ _ _ c => [] :: addressesFrom 0 c

/-- The addresses below a node, from the child with a given number on. -/
def addressesFrom (i : Nat) : List Node → List (List Nat)
  | [] => []
  | n :: rest => (addresses n).map (i :: ·) ++ addressesFrom (i + 1) rest

end

theorem addressesFrom_eq_flatMap (i : Nat) (c : List Node) :
    addressesFrom i c = (c.zipIdx i).flatMap fun p => p.1.addresses.map (p.2 :: ·) := by
  induction c generalizing i with
  | nil => rfl
  | cons n rest ih => rw [addressesFrom, ih, List.zipIdx_cons, List.flatMap_cons]

theorem addresses_eq (n : Node) :
    n.addresses = [] :: n.children.zipIdx.flatMap fun p => p.1.addresses.map (p.2 :: ·) := by
  cases n
  rw [addresses, addressesFrom_eq_flatMap, children]

theorem cons_mem_addresses_iff (n : Node) (i : Nat) (rest : List Nat) :
    i :: rest ∈ n.addresses ↔ ∃ c, n.children[i]? = some c ∧ rest ∈ c.addresses := by
  rw [addresses_eq, List.mem_cons, or_iff_right (List.cons_ne_nil i rest), List.mem_flatMap]
  constructor
  · rintro ⟨p, hp, h⟩
    obtain ⟨_, hrest, heq⟩ := List.mem_map.mp h
    obtain ⟨rfl, rfl⟩ := List.cons.inj heq
    exact ⟨p.1, List.mem_zipIdx_iff_getElem?.mp hp, hrest⟩
  · rintro ⟨c, hc, hrest⟩
    exact ⟨(c, i), List.mem_zipIdx_iff_getElem?.mpr hc, List.mem_map.mpr ⟨rest, hrest, rfl⟩⟩

/-- The addresses of a tree are those at which there is a node. -/
theorem mem_addresses_iff (n : Node) (address : List Nat) :
    address ∈ n.addresses ↔ ∃ m, n.at? address = some m := by
  induction address generalizing n with
  | nil => exact iff_of_true (by rw [addresses_eq]; exact List.mem_cons_self) ⟨n, rfl⟩
  | cons i rest ih =>
    rw [cons_mem_addresses_iff, at?]
    cases n.children[i]? with
    | none => simp
    | some c => simpa using ih c

/-- The addresses below a node come after its own, and those below one child before those below
the next. -/
theorem pairwise_addresses (n : Node) : n.addresses.Pairwise (List.Lex (· < ·)) := by
  induction n using inductionOn with
  | node n ih =>
    have hchildren : n.children.zipIdx.Pairwise fun p q => p.2 < q.2 := by
      rw [← List.pairwise_map, List.zipIdx_map_snd]
      exact List.pairwise_lt_range' 1
    rw [addresses_eq, List.pairwise_cons, List.pairwise_flatMap]
    refine ⟨fun address h => ?_, fun p hp => ?_, hchildren.imp fun {p q} hpq a ha b hb => ?_⟩
    -- the address of the node itself is empty
    · obtain ⟨p, -, h⟩ := List.mem_flatMap.mp h
      obtain ⟨rest, -, rfl⟩ := List.mem_map.mp h
      exact .nil
    -- two addresses below one child
    · rw [List.pairwise_map]
      have hc : p.1 ∈ n.children := List.mem_of_getElem? (List.mem_zipIdx_iff_getElem?.mp hp)
      exact (ih p.1 hc).imp .cons
    -- two addresses below different children
    · obtain ⟨_, -, rfl⟩ := List.mem_map.mp ha
      obtain ⟨_, -, rfl⟩ := List.mem_map.mp hb
      exact .rel hpq

/-! ### Lists in preorder -/

/-- A list of addresses is that of the nodes with a property, in preorder: every such node is there
once, before its descendants, and before what is below a later sibling. -/
structure InPreorder (root : Node) (p : Node → Prop) (addresses : List (List Nat)) : Prop where
  sorted : addresses.Pairwise (List.Lex (· < ·))
  mem_iff : ∀ address, address ∈ addresses ↔ ∃ n, root.at? address = some n ∧ p n

theorem inPreorder_addresses (root : Node) : root.InPreorder (fun _ => True) root.addresses where
  sorted := pairwise_addresses root
  mem_iff address := by simp only [mem_addresses_iff, and_true]

theorem inPreorder_filter (root : Node) {p : Node → Prop} {q : Node → Bool}
    (h : ∀ n, q n = true ↔ p n) :
    root.InPreorder p (root.addresses.filter fun address => (root.at? address).any q) where
  sorted := (pairwise_addresses root).filter _
  mem_iff address := by
    rw [List.mem_filter, mem_addresses_iff, Option.any_eq_true]
    simp only [h]
    exact ⟨And.right, fun hn => ⟨hn.imp fun _ => And.left, hn⟩⟩

theorem lex_of_isPrefix {a b : List Nat} (h : a <+: b) (hne : a ≠ b) :
    List.Lex (· < ·) a b := by
  obtain ⟨c, rfl⟩ := h
  induction a with
  | nil =>
    cases c with
    | nil => exact absurd rfl hne
    | cons i c => exact .nil
  | cons i a ih => exact .cons (ih fun h => hne (congrArg (i :: ·) h))

/-- A node comes before what it contains. -/
theorem InPreorder.lt_of_isPrefix {root : Node} {p : Node → Prop} {addresses : List (List Nat)}
    (h : root.InPreorder p addresses) {i j : Nat} {a b : List Nat} (ha : addresses[i]? = some a)
    (hb : addresses[j]? = some b) (hab : a <+: b) (hne : a ≠ b) : i < j := by
  obtain ⟨hi, rfl⟩ := List.getElem?_eq_some_iff.mp ha
  obtain ⟨hj, rfl⟩ := List.getElem?_eq_some_iff.mp hb
  rcases Nat.lt_trichotomy i j with hlt | rfl | hlt
  · exact hlt
  · exact absurd rfl hne
  · have hba := List.pairwise_iff_getElem.mp h.sorted j i hj hi hlt
    exact absurd (lex_of_isPrefix hab hne) (List.lex_asymm Nat.lt_asymm hba)

/-! ### Visits -/

/-- The parent of the node at an address, one level up; the top node has a given one. -/
def parentAt? (above : Option Node) (n : Node) : List Nat → Option Node
  | [] => above
  | i :: rest => n.at? (i :: rest).dropLast

/-- A visit is that of the node at an address, with its parent. -/
def IsVisit (above : Option Node) (n : Node) (address : List Nat) (visit : Option Node × Node) :
    Prop :=
  n.at? address = some visit.2 ∧ visit.1 = n.parentAt? above address

section visits

variable {n c : Node} {i : Nat} {rest : List Nat} {above : Option Node}

theorem at?_cons (h : n.children[i]? = some c) : n.at? (i :: rest) = c.at? rest := by
  rw [at?, h, Option.bind_some]

theorem parentAt?_cons (h : n.children[i]? = some c) :
    n.parentAt? above (i :: rest) = c.parentAt? (some n) rest := by
  cases rest with
  | nil => rfl
  | cons j rest => rw [parentAt?, List.dropLast_cons_cons, at?_cons h, parentAt?]

/-- A visit below a child is one below the node. -/
theorem IsVisit.cons (h : n.children[i]? = some c) {visit : Option Node × Node}
    (hvisit : c.IsVisit (some n) rest visit) : n.IsVisit above (i :: rest) visit :=
  ⟨(at?_cons h).trans hvisit.1, hvisit.2.trans (parentAt?_cons h).symm⟩

end visits

/-- **The recursion visits one address after another.** -/
theorem forall₂_isVisit (n : Node) (above : Option Node) :
    List.Forall₂ (n.IsVisit above) n.addresses (preorder above n) := by
  induction n using inductionOn generalizing above with
  | node n ih =>
    -- both lists run over the children with their numbers
    have hnumbered : n.children.flatMap (preorder (some n)) =
        n.children.zipIdx.flatMap fun p => preorder (some n) p.1 := by
      rw [← List.flatMap_map Prod.fst, List.zipIdx_map_fst]
    rw [addresses_eq, preorder_eq, hnumbered, List.forall₂_cons]
    refine ⟨⟨rfl, rfl⟩, List.rel_flatMap (R := fun p q => p = q ∧ p ∈ n.children.zipIdx)
      (List.forall₂_same.mpr fun p hp => ⟨rfl, hp⟩) ?_⟩
    rintro p _ ⟨rfl, hp⟩
    rw [List.forall₂_map_left_iff]
    have hchild : n.children[p.2]? = some p.1 := List.mem_zipIdx_iff_getElem?.mp hp
    exact (ih p.1 (List.mem_of_getElem? hchild) (some n)).imp fun _ _ => IsVisit.cons hchild

/-! ### Functions -/

theorem isFunction_iff (n : Node) :
    n.isFunction = true ↔ n.named = true ∧ n.kind ∈ functionKinds := by
  rw [isFunction, Bool.and_eq_true, List.contains_iff_mem]

/-- The functions of a tree are those of the visits at the addresses of function nodes. -/
theorem forall₂_functions (root : Node) :
    List.Forall₂ (fun address f => ∃ visit, root.IsVisit none address visit ∧
        f = functionSpan visit.1 visit.2)
      (root.addresses.filter fun address => (root.at? address).any isFunction) root.functions := by
  have hfilter := List.rel_filter (p := fun address => (root.at? address).any isFunction)
    (q := fun visit => visit.2.isFunction)
    (fun address visit h => by simp only [h.1, Option.any_some]) (forall₂_isVisit root none)
  rw [functions, walk_eq_preorder, List.forall₂_map_right_iff]
  exact hfilter.imp fun address visit h => ⟨visit, h, rfl⟩

/-- **The walk with a stack is the recursion.** On its turns a walk gives out the nodes of the tree
in preorder, one on each, and its stack is empty just after as many turns as there are nodes. So a
walk ends and gives out the list that the recursion gives: every node of the tree once, with its
parent, a node before its descendants and siblings in source order. The functions among the facts
of the tree are the named nodes of a function kind in that order, a function before those it
contains, and the number of lines of each runs from its first row to its last. -/
theorem walk_exact (root : Node) (ls : List Line) :
    (∀ k, (turn^[k] [(none, root)]).head? = (root.preorder none)[k]?) ∧
    (∀ k, turn^[k] [(none, root)] = [] ↔ root.size ≤ k) ∧
    root.walk = root.preorder none ∧
    (∃ addresses, root.InPreorder (fun _ => True) addresses ∧
      List.Forall₂ (root.IsVisit none) addresses root.walk) ∧
    ∃ addresses, root.InPreorder (fun n => n.named = true ∧ n.kind ∈ functionKinds) addresses ∧
      (∀ (i j : Nat) (a b : List Nat), addresses[i]? = some a →
        addresses[j]? = some b → a <+: b → a ≠ b → i < j) ∧
      List.Forall₂ (fun address f => ∃ visit, root.IsVisit none address visit ∧
          f.name = functionName visit.1 visit.2 ∧
          f.lineCount = (visit.2.endRow : Int) - visit.2.startRow + 1)
        addresses (SourceFacts.ofTree ls (some root)).functions := by
  have hpending : pending [(none, root)] = root.preorder none := List.flatMap_singleton ..
  have hsize : stackSize [(none, root)] = root.size := Nat.add_zero root.size
  have hfunctions := root.inPreorder_filter isFunction_iff
  refine ⟨fun k => ?_, fun k => ?_, root.walk_eq_preorder,
    ⟨root.addresses, root.inPreorder_addresses, ?_⟩, ⟨_, hfunctions, ?_, ?_⟩⟩
  · rw [head?_iterate_turn, hpending]
  · rw [iterate_turn_eq_nil_iff, hsize]
  · rw [walk_eq_preorder]
    exact root.forall₂_isVisit none
  · exact fun i j a b ha hb hab hne => hfunctions.lt_of_isPrefix ha hb hab hne
  · refine root.forall₂_functions.imp fun address f h => ?_
    obtain ⟨visit, hvisit, rfl⟩ := h
    exact ⟨visit, hvisit, rfl, rfl⟩

/-- A function with another one inside it comes first, and one that follows it comes last. -/
example :
    let inner : Node := .mk "arrow_function" true none 1 1 none []
    let outer : Node := .mk "method_definition" true none 0 2 none [inner]
    let next : Node := .mk "arrow_function" true none 3 3 none []
    (Node.mk "program" true none 0 3 none [outer, next]).functions =
      [⟨"anonymous@1", 3⟩, ⟨"arrow@2", 1⟩, ⟨"arrow@4", 1⟩] := by
  decide +kernel

end Node

end Preflight.Source
