import Mathlib.Data.List.Basic
import Preflight.Source.Facts

/-!
# The variables of a file that can be assigned again

The facts of a text name the variables that its statements declare with `let` or `var`, and those
that they declare and give out. A variable counts where its declarator names it; a declarator that
takes a value apart names none, so a declaration with no other declarators goes unreported. What
stands inside a declaration that is nested deeper does not matter.

## Main definitions

* `Node.atModuleScope`: the statements of a file, and what they give out.
* `Node.mutations`: the variables a declaration names, if they can be assigned again.
* `Node.withChildrenAt`: a tree with other children of the node at an address.
* `Node.IsModuleScope`: the addresses of what is not nested deeper.

## Main results

* `SourceFacts.globalMutations_ofTree`: where the reported variables come from.
* `Node.mem_atModuleScope_iff`: what is at module scope, by addresses.
* `Node.mutations_eq_nil_iff`: which declarations go unreported.
* `Node.scopeMutations_withChildrenAt`: what is nested deeper does not matter.
* `SourceFacts.mutations_exact`: all of these together.
-/

namespace Preflight.Source

/-! ### Lists with one member changed -/

section modify

variable {α β : Type} {p : α → Bool} {g : α → α}

/-- A search in a list finds what it found before one member is changed, the changed member in the
place of the old one; the change may not matter to the search. -/
theorem find?_modify (hg : ∀ a, p (g a) = p a) (xs : List α) (i : Nat) :
    (xs.modify i g).find? p =
      if xs.findIdx? p = some i then (xs.find? p).map g else xs.find? p := by
  induction xs generalizing i with
  | nil => simp
  | cons x xs ih =>
    cases i with
    | zero =>
      rw [List.modify_zero_cons, List.find?_cons, List.find?_cons, List.findIdx?_cons, hg]
      cases p x <;> simp
    | succ i =>
      rw [List.modify_succ_cons, List.find?_cons, List.find?_cons, List.findIdx?_cons, ih]
      cases p x <;> simp

/-- What members of a list give does not change with a member that gives the same as before. -/
theorem flatMap_filter_modify (hg : ∀ a, p (g a) = p a) {f : α → List β} {xs : List α} {i : Nat}
    (h : ∀ a, xs[i]? = some a → p a = true → f (g a) = f a) :
    ((xs.modify i g).filter p).flatMap f = (xs.filter p).flatMap f := by
  induction xs generalizing i with
  | nil => simp
  | cons x xs ih =>
    cases i with
    | zero =>
      rw [List.modify_zero_cons, List.filter_cons, List.filter_cons, hg]
      split
      · next hx => rw [List.flatMap_cons, List.flatMap_cons, h x rfl hx]
      · rfl
    | succ i =>
      rw [List.modify_succ_cons, List.filter_cons, List.filter_cons]
      split
      · rw [List.flatMap_cons, List.flatMap_cons, ih h]
      · exact ih h

end modify

namespace Node

/-! ### What is reported -/

/-- The declarators of a declaration of variables. -/
def declarators (n : Node) : List Node :=
  n.namedChildren.filter (·.kind == "variable_declarator")

/-- The name a declarator declares, unless it takes a value apart. -/
def plainName? (declarator : Node) : Option Node :=
  (declarator.child? "name").filter (·.kind == "identifier")

/-- A declaration of variables that can be assigned again. -/
def isReassignable (n : Node) : Bool :=
  variableDeclarationKinds.contains n.kind && reassignableKeywords.contains n.variableKeyword

/-- A name as it is reported. -/
def mutation (name : Node) : GlobalMutation := ⟨name.text, name.line⟩

/-- The variables a declaration names, if they can be assigned again. -/
def mutations (n : Node) : List GlobalMutation :=
  if n.isReassignable then (n.declarators.filterMap plainName?).map mutation else []

/-- What stands at module scope: the statements of a file, and what they give out. -/
def atModuleScope (root : Node) : List Node :=
  root.namedChildren.filterMap fun n =>
    if n.kind == "export_statement" then n.child? "declaration" else some n

theorem map_binding? (n : Node) :
    n.binding?.map (fun b => (⟨b.name, b.line⟩ : GlobalMutation)) =
      if n.kind == "variable_declarator" then n.plainName?.map mutation else none := by
  rw [binding?, plainName?]
  by_cases hkind : n.kind = "variable_declarator"
  · cases hname : n.child? "name" with
    | none => simp [hkind]
    | some name =>
      by_cases hidentifier : name.kind = "identifier"
      · simp [hkind, hidentifier, Option.filter, mutation]
      · simp [hkind, hidentifier, Option.filter]
  · simp [hkind]

/-- What a declaration is read as reports the names of its declarators. -/
theorem mutations_declaredGroup (exported : Bool) (n : Node)
    (h : variableDeclarationKinds.contains n.kind = true) :
    (n.declaredGroup exported).mutations = n.mutations := by
  have hnames : (n.namedChildren.filterMap binding?).map
      (fun b => (⟨b.name, b.line⟩ : GlobalMutation)) =
        (n.declarators.filterMap plainName?).map mutation := by
    rw [declarators, List.map_filterMap, List.map_filterMap, List.filterMap_filter]
    exact List.filterMap_congr fun c _ => map_binding? c
  rw [declaredGroup, TopLevel.mutations, mutations, isReassignable, h, Bool.true_and, hnames]

theorem mutations_of_isReassignable_false {n : Node} (h : n.isReassignable = false) :
    n.mutations = [] := by
  rw [mutations, h, if_neg Bool.false_ne_true]

theorem isReassignable_of_kind {n : Node} (h : variableDeclarationKinds.contains n.kind = false) :
    n.isReassignable = false := by
  rw [isReassignable, h, Bool.false_and]

theorem mutations_functionTopLevel (exported : Bool) (n : Node) :
    (n.functionTopLevel exported).mutations = [] := rfl

/-- What is read as no declaration, or as a declaration of a function, reports nothing. -/
theorem mutations_declared? (exported : Bool) (n : Node) :
    (n.declared? exported).toList.flatMap TopLevel.mutations = n.mutations := by
  rw [declared?]
  split
  · next h => simp [mutations_declaredGroup exported n h]
  · next h =>
    have hnone := mutations_of_isReassignable_false
      (isReassignable_of_kind (Bool.eq_false_iff.mpr h))
    split
    · simp [hnone, mutations_functionTopLevel]
    · simp [hnone]

/-- What is given out is reported like what is only declared; a value given out is no variable. -/
theorem mutations_exported? (n : Node) :
    n.exported?.toList.flatMap TopLevel.mutations =
      (n.child? "declaration").toList.flatMap mutations := by
  rw [exported?]
  cases n.child? "declaration" with
  | some d => simp [mutations_declared?]
  | none =>
    dsimp only
    split
    · cases n.child? "value" with
      | none => rfl
      | some v =>
        dsimp only [Option.bind_some]
        split
        · simp [mutations_functionTopLevel]
        · rfl
    · rfl

/-- The variables that a statement of a file declares or gives out. -/
def statementMutations (n : Node) : List GlobalMutation :=
  if n.kind == "export_statement" then (n.child? "declaration").toList.flatMap mutations
  else n.mutations

/-- The variables that the statements of a file declare or give out. -/
def scopeMutations (root : Node) : List GlobalMutation :=
  root.namedChildren.flatMap statementMutations

theorem flatMap_atModuleScope (root : Node) :
    root.atModuleScope.flatMap mutations = root.scopeMutations := by
  rw [atModuleScope, List.filterMap_eq_flatMap_toList, List.flatMap_assoc, scopeMutations]
  refine List.flatMap_congr fun n _ => ?_
  rw [statementMutations]
  split
  · rfl
  · simp

/-- Which declarations go unreported: those whose declarators take values apart. -/
theorem mutations_eq_nil_iff {n : Node} (h : n.isReassignable = true) :
    n.mutations = [] ↔ ∀ declarator ∈ n.declarators, ∀ name,
      declarator.child? "name" = some name → name.kind ≠ "identifier" := by
  rw [mutations, if_pos h, List.map_eq_nil_iff, List.filterMap_eq_nil_iff]
  simp only [plainName?, Option.filter_eq_none_iff, beq_iff_eq]

end Node

/-- **Where the reported variables come from**: from the declarations at module scope, one after
another. -/
theorem SourceFacts.globalMutations_ofTree (ls : List Line) (root : Node) :
    (ofTree ls (some root)).globalMutations = root.scopeMutations := by
  have htopLevel : (ofTree ls (some root)).globalMutations =
      root.topLevel.flatMap TopLevel.mutations := rfl
  rw [htopLevel, Node.topLevel, List.filterMap_eq_flatMap_toList, List.flatMap_assoc,
    Node.scopeMutations]
  refine List.flatMap_congr fun n _ => ?_
  rw [Node.statementMutations]
  split
  · exact n.mutations_exported?
  · exact n.mutations_declared? false

/-! ### What is nested deeper -/

namespace Node

/-- The same node with other children. -/
def withChildren (children : List Node) : Node → Node
  | mk k n r s e t _ => mk k n r s e t children

/-- A tree with other children of the node at an address. -/
def withChildrenAt (children : List Node) : List Nat → Node → Node
  | [], n => n.withChildren children
  | i :: rest, n => n.withChildren (n.children.modify i (withChildrenAt children rest))

/-- What is not nested deeper: the file itself, its statements, and what a statement gives out. -/
def IsModuleScope (root : Node) : List Nat → Prop
  | [] => True
  | [i] => ∃ n, root.children[i]? = some n ∧ n.named = true
  | [i, j] => ∃ n, root.children[i]? = some n ∧ n.named = true ∧ n.kind = "export_statement" ∧
      n.children.findIdx? (·.role == some "declaration") = some j
  | _ => False

section withChildrenAt

variable (children : List Node) (address : List Nat) (n : Node)

@[simp] theorem kind_withChildrenAt : (withChildrenAt children address n).kind = n.kind := by
  cases address <;> cases n <;> rfl

@[simp] theorem named_withChildrenAt : (withChildrenAt children address n).named = n.named := by
  cases address <;> cases n <;> rfl

@[simp] theorem role_withChildrenAt : (withChildrenAt children address n).role = n.role := by
  cases address <;> cases n <;> rfl

@[simp] theorem text_withChildrenAt : (withChildrenAt children address n).text = n.text := by
  cases address <;> cases n <;> rfl

@[simp] theorem line_withChildrenAt : (withChildrenAt children address n).line = n.line := by
  cases address <;> cases n <;> rfl

theorem mutation_withChildrenAt : (withChildrenAt children address n).mutation = n.mutation := by
  rw [mutation, mutation, text_withChildrenAt, line_withChildrenAt]

theorem children_withChildrenAt_cons (i : Nat) :
    (withChildrenAt children (i :: address) n).children =
      n.children.modify i (withChildrenAt children address) := by
  cases n
  rfl

end withChildrenAt

section below

variable {children : List Node} {address : List Nat} {n d : Node} {i : Nat}

/-- The child in a role is the one that was there, changed where the address leads into it. -/
theorem child?_withChildrenAt_cons (r : String) :
    (withChildrenAt children (i :: address) n).child? r =
      if n.children.findIdx? (·.role == some r) = some i then
        (n.child? r).map (withChildrenAt children address)
      else n.child? r := by
  rw [child?, children_withChildrenAt_cons]
  exact find?_modify (fun c => by rw [role_withChildrenAt]) n.children i

theorem variableKeyword_eq (n : Node) :
    n.variableKeyword = if n.kind == "variable_declaration" then "var"
      else ((n.child? "kind").map text).getD ((n.children.head?.map text).getD "") := by
  rw [variableKeyword]
  cases n.child? "kind" <;> rfl

theorem variableKeyword_withChildrenAt_cons :
    (withChildrenAt children (i :: address) n).variableKeyword = n.variableKeyword := by
  have hkind : ((withChildrenAt children (i :: address) n).child? "kind").map text =
      (n.child? "kind").map text := by
    rw [child?_withChildrenAt_cons]
    split
    · cases n.child? "kind" <;> simp
    · rfl
  have hfirst : (withChildrenAt children (i :: address) n).children.head?.map text =
      n.children.head?.map text := by
    rw [children_withChildrenAt_cons]
    cases n.children <;> cases i <;> simp
  rw [variableKeyword_eq, variableKeyword_eq, kind_withChildrenAt, hkind, hfirst]

theorem plainName?_withChildrenAt_cons :
    (withChildrenAt children (i :: address) n).plainName?.map mutation =
      n.plainName?.map mutation := by
  rw [plainName?, plainName?, child?_withChildrenAt_cons]
  split
  · cases n.child? "name" with
    | none => rfl
    | some name =>
      by_cases h : name.kind = "identifier"
      · simp [Option.filter, h, mutation_withChildrenAt]
      · simp [Option.filter, h]
  · rfl

/-- The names of the declarators among the children. -/
theorem map_mutation_declarators (n : Node) :
    (n.declarators.filterMap plainName?).map mutation =
      (n.children.filter fun c => c.kind == "variable_declarator" && c.named).flatMap
        fun c => (c.plainName?.map mutation).toList := by
  rw [declarators, namedChildren, List.filter_filter, List.map_filterMap,
    List.filterMap_eq_flatMap_toList]

/-- A declaration reports what it reported, whatever stands inside a declaration below it. -/
theorem mutations_withChildrenAt_cons (hd : n.at? (i :: address) = some d)
    (hkind : variableDeclarationKinds.contains d.kind = true) :
    (withChildrenAt children (i :: address) n).mutations = n.mutations := by
  have hnames : ∀ c, n.children[i]? = some c → (c.kind == "variable_declarator" && c.named) = true →
      ((withChildrenAt children address c).plainName?.map mutation).toList =
        (c.plainName?.map mutation).toList := by
    intro c hc hdeclarator
    rw [at?, hc] at hd
    cases address with
    | nil =>
      -- the declaration is no declarator itself
      obtain rfl := Option.some.inj hd
      rw [Bool.and_eq_true, beq_iff_eq] at hdeclarator
      rw [hdeclarator.1] at hkind
      exact absurd hkind (by decide)
    | cons j rest => rw [plainName?_withChildrenAt_cons]
  rw [mutations, mutations, isReassignable, isReassignable, kind_withChildrenAt,
    variableKeyword_withChildrenAt_cons, map_mutation_declarators, map_mutation_declarators,
    children_withChildrenAt_cons, flatMap_filter_modify (by simp) hnames]

/-- A statement reports what it reported, whatever stands inside a declaration that is nested deeper
in it. -/
theorem statementMutations_withChildrenAt_cons {j : Nat} (hd : n.at? (j :: address) = some d)
    (hkind : variableDeclarationKinds.contains d.kind = true)
    (hdeep : n.kind = "export_statement" → address = [] →
      n.children.findIdx? (·.role == some "declaration") ≠ some j) :
    (withChildrenAt children (j :: address) n).statementMutations = n.statementMutations := by
  rw [statementMutations, statementMutations, kind_withChildrenAt]
  split
  · next hexport =>
    rw [child?_withChildrenAt_cons]
    split
    · next hj =>
      cases address with
      | nil => exact absurd hj (hdeep (beq_iff_eq.mp hexport) rfl)
      | cons k rest =>
        have hgiven : n.child? "declaration" = n.children[j]? := by
          rw [child?, List.find?_eq_bind_findIdx?_getElem?, hj, Option.bind_some]
        rw [at?, ← hgiven] at hd
        obtain ⟨given, hchild, hd⟩ := Option.bind_eq_some_iff.mp hd
        rw [hchild, Option.map_some, Option.toList_some, Option.toList_some, List.flatMap_singleton,
          List.flatMap_singleton, mutations_withChildrenAt_cons hd hkind]
    · rfl
  · exact mutations_withChildrenAt_cons hd hkind

/-- **What is nested deeper does not matter**: the variables of a file are the same whatever stands
inside a declaration of variables that is not at module scope. -/
theorem scopeMutations_withChildrenAt {root : Node} (hd : root.at? address = some d)
    (hkind : variableDeclarationKinds.contains d.kind = true)
    (hdeep : ¬root.IsModuleScope address) :
    (withChildrenAt children address root).scopeMutations = root.scopeMutations := by
  cases address with
  | nil => exact absurd trivial hdeep
  | cons i rest =>
    rw [scopeMutations, scopeMutations, namedChildren, namedChildren, children_withChildrenAt_cons]
    refine flatMap_filter_modify (fun c => named_withChildrenAt children rest c) ?_
    intro n hn hnamed
    rw [at?, hn] at hd
    cases rest with
    | nil => exact absurd ⟨n, hn, hnamed⟩ hdeep
    | cons j rest =>
      refine statementMutations_withChildrenAt_cons hd hkind fun hexport hrest hj => ?_
      subst hrest
      exact hdeep ⟨n, hn, hnamed, hexport, hj⟩

end below

/-- What is at module scope is at the addresses of what is not nested deeper. -/
theorem mem_atModuleScope_iff {root d : Node}
    (hkind : variableDeclarationKinds.contains d.kind = true) :
    d ∈ root.atModuleScope ↔
      ∃ address, address ≠ [] ∧ root.IsModuleScope address ∧ root.at? address = some d := by
  have hexport : d.kind ≠ "export_statement" := by
    intro h
    rw [h] at hkind
    exact absurd hkind (by decide)
  rw [atModuleScope, List.mem_filterMap]
  constructor
  · rintro ⟨n, hn, hd⟩
    obtain ⟨hmem, hnamed⟩ := List.mem_filter.mp hn
    obtain ⟨i, hi⟩ := List.getElem?_of_mem hmem
    split at hd
    · next hgives =>
      rw [child?, List.find?_eq_bind_findIdx?_getElem?] at hd
      obtain ⟨j, hj, hd⟩ := Option.bind_eq_some_iff.mp hd
      refine ⟨[i, j], List.cons_ne_nil i [j], ⟨n, hi, hnamed, beq_iff_eq.mp hgives, hj⟩, ?_⟩
      rw [at?, hi, Option.bind_some, at?, hd]
      rfl
    · obtain rfl := Option.some.inj hd
      exact ⟨[i], List.cons_ne_nil i [], ⟨n, hi, hnamed⟩, by rw [at?, hi]; rfl⟩
  · rintro ⟨address, hne, hscope, hd⟩
    match address, hne with
    | [i], _ =>
      obtain ⟨n, hi, hnamed⟩ := hscope
      rw [at?, hi] at hd
      obtain rfl := Option.some.inj hd
      refine ⟨n, List.mem_filter.mpr ⟨List.mem_of_getElem? hi, hnamed⟩, ?_⟩
      rw [if_neg (by simpa using hexport)]
    | [i, j], _ =>
      obtain ⟨n, hi, hnamed, hgives, hj⟩ := hscope
      refine ⟨n, List.mem_filter.mpr ⟨List.mem_of_getElem? hi, hnamed⟩, ?_⟩
      rw [at?, hi, Option.bind_some, at?] at hd
      obtain ⟨e, he, hd⟩ := Option.bind_eq_some_iff.mp hd
      obtain rfl := Option.some.inj hd
      rw [if_pos (beq_iff_eq.mpr hgives), child?, List.find?_eq_bind_findIdx?_getElem?, hj,
        Option.bind_some, he]
    | _ :: _ :: _ :: _, _ => exact hscope.elim

end Node

namespace SourceFacts

/-- **Which variables are reported.** The facts of a tree name what the declarations at module scope
name, one after another; these are the ones that are not nested deeper. A declaration with `let` or
`var` goes unreported exactly if the name of no declarator is an identifier, as where all of them
take values apart. And what stands inside a declaration that is nested deeper changes nothing. -/
theorem mutations_exact (ls : List Line) (root : Node) :
    (ofTree ls (some root)).globalMutations = root.atModuleScope.flatMap Node.mutations ∧
    (∀ d : Node, variableDeclarationKinds.contains d.kind = true →
      (d ∈ root.atModuleScope ↔
        ∃ address, address ≠ [] ∧ root.IsModuleScope address ∧ root.at? address = some d)) ∧
    (∀ d : Node, d.isReassignable = true →
      (d.mutations = [] ↔ ∀ declarator ∈ d.declarators, ∀ name,
        declarator.child? "name" = some name → name.kind ≠ "identifier")) ∧
    ∀ address d, root.at? address = some d → variableDeclarationKinds.contains d.kind = true →
      ¬root.IsModuleScope address → ∀ children,
        (ofTree ls (some (Node.withChildrenAt children address root))).globalMutations =
          (ofTree ls (some root)).globalMutations := by
  refine ⟨?_, fun d hkind => Node.mem_atModuleScope_iff hkind,
    fun d hd => Node.mutations_eq_nil_iff hd, fun address d hd hkind hdeep children => ?_⟩
  · rw [globalMutations_ofTree, Node.flatMap_atModuleScope]
  · rw [globalMutations_ofTree, globalMutations_ofTree,
      Node.scopeMutations_withChildrenAt hd hkind hdeep]

/-- A file with a function, and a variable inside it. -/
def innerVariable : Node :=
  let name : Node := .mk "identifier" true (some "name") 0 0 (some "x") []
  let keyword : Node := .mk "let" false (some "kind") 0 0 (some "let") []
  let declarator : Node := .mk "variable_declarator" true none 0 0 none [name]
  let declaration : Node := .mk "lexical_declaration" true none 0 0 none [keyword, declarator]
  let block : Node := .mk "statement_block" true (some "body") 0 0 none [declaration]
  .mk "program" true none 0 0 none [.mk "function_declaration" true none 0 0 none [block]]

/-- Without its declarator the variable inside the function is no less reported than with it. -/
theorem mutations_exact_innerVariable :
    (ofTree [] (some (Node.withChildrenAt [] [0, 0, 0] innerVariable))).globalMutations =
      (ofTree [] (some innerVariable)).globalMutations := by
  obtain ⟨-, -, -, hdeep⟩ := mutations_exact [] innerVariable
  exact hdeep [0, 0, 0] _ rfl (by decide) id []

/-- The variables that a declaration takes out of a value are not reported, although the declaration
is at module scope and they can be assigned again. -/
theorem mutations_of_pattern :
    ∃ root d, parse? .script "let {a} = f();\n" = some root ∧ d ∈ root.atModuleScope ∧
      d.isReassignable = true ∧ d.declarators ≠ [] ∧
      (ofText .script "let {a} = f();\n").globalMutations = [] := by
  have hread : ((parse? .script "let {a} = f();\n").any fun root => root.atModuleScope.any fun d =>
      d.isReassignable && !d.declarators.isEmpty) = true := by
    decide +kernel
  cases hroot : parse? .script "let {a} = f();\n" with
  | none =>
    rw [hroot] at hread
    cases hread
  | some root =>
    rw [hroot, Option.any_some, List.any_eq_true] at hread
    obtain ⟨d, hd, hdeclares⟩ := hread
    rw [Bool.and_eq_true, Bool.not_eq_true', List.isEmpty_eq_false_iff] at hdeclares
    exact ⟨root, d, rfl, hd, hdeclares.1, hdeclares.2, by decide +kernel⟩

end SourceFacts

end Preflight.Source
