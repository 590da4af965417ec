import JumpMacros.Proofs.Walk
import Mathlib.Data.List.Basic

/-!
# The order of a walk

A walk over trees is a loop over a stack: the node on top is taken and visited, and the nodes to go
to below it are put on in reverse, so that the first of them is the next. `StackLoop` is this loop,
on a list with its top at the end. By its form it need not come to an end.

What it visits is said with addresses. An address picks one of the trees, then a node to go to below
it, and so on down to a node (`Reaches`). Addresses are compared like words: an address comes before
those that go on from it, and these come before the addresses of later siblings.

**Theorem (`Siblings.exists_visits`).** The loop ends, whatever the trees are. It visits the nodes
that an address reaches, once for each address, in the order of the addresses.

This does not depend on how the children of a node are listed (`Siblings`); a dictionary could as
well list its keys before its values. If they are listed as they are in the tree, the loop visits
the nodes of `Node.walk` (`Siblings.stackLoop_inTree`).

The invariant is a statement about any stack with trees on top: the loop first visits the nodes of
these trees, and then goes on with what lies below them (`Siblings.stackLoop_append`).
-/

namespace JumpMacros

namespace Node

/-! ## The loop -/

/-- `StackLoop below todo visited`: the loop over the stack `todo` comes to an end and visits
`visited` on the way. A round takes the last node of the stack, and puts what `below` lists for it
on the stack, the last node of the list first. -/
inductive StackLoop {α : Type} (below : α → List α) : List α → List α → Prop
  | done : StackLoop below [] []
  | round {todo visited : List α} {n : α}
      (rest : StackLoop below (todo ++ (below n).reverse) visited) :
      StackLoop below (todo ++ [n]) (n :: visited)

/-- `Reaches below ns a m`: the address `a` leads from the trees `ns` to the node `m`. Its first
number picks one of the trees, and each further one a node of those below. -/
inductive Reaches {α : Type} (below : α → List α) : List α → List Nat → α → Prop
  | root {ns : List α} {i : Nat} {n : α} (h : ns[i]? = some n) : Reaches below ns [i] n
  | child {ns : List α} {i : Nat} {a : List Nat} {n m : α} (h : ns[i]? = some n)
      (rest : Reaches below (below n) a m) : Reaches below ns (i :: a) m

section

variable {α : Type} {below : α → List α} {n m : α} {ns : List α} {i : Nat} {a : List Nat}

/-- The loop can visit one sequence of nodes only. -/
theorem StackLoop.unique {todo visited visited' : List α} (h : StackLoop below todo visited)
    (h' : StackLoop below todo visited') : visited = visited' := by
  induction h generalizing visited' with
  | done =>
    generalize hnil : ([] : List α) = todo at h'
    cases h' with
    | done => rfl
    | round => simp at hnil
  | @round todo visited n rest ih =>
    generalize htodo : todo ++ [n] = stack at h'
    cases h' with
    | done => simp at htodo
    | round rest' =>
      obtain ⟨rfl, rfl⟩ := List.append_singleton_inj.1 htodo
      rw [ih rest']

theorem not_reaches_nil : ¬Reaches below [] a m := by
  intro h
  cases h with
  | root h => simp at h
  | child h _ => simp at h

theorem Reaches.ne_nil (h : Reaches below ns a m) : a ≠ [] := by
  cases h <;> simp

theorem reaches_zero :
    Reaches below (n :: ns) (0 :: a) m ↔ a = [] ∧ m = n ∨ Reaches below (below n) a m := by
  constructor
  · intro h
    cases h with
    | root h => exact .inl ⟨rfl, (Option.some.inj h).symm⟩
    | child h rest =>
      obtain rfl := Option.some.inj h
      exact .inr rest
  · rintro (⟨rfl, rfl⟩ | rest)
    · exact .root rfl
    · exact .child rfl rest

theorem reaches_succ : Reaches below (n :: ns) ((i + 1) :: a) m ↔ Reaches below ns (i :: a) m := by
  constructor
  · intro h
    cases h with
    | root h => exact .root h
    | child h rest => exact .child h rest
  · intro h
    cases h with
    | root h => exact .root h
    | child h rest => exact .child h rest

theorem reaches_iff_exists :
    Reaches below ns a m ↔ ∃ j b, a = (0 + j) :: b ∧ Reaches below ns (j :: b) m := by
  constructor
  · intro h
    obtain ⟨j, b, rfl⟩ := List.exists_cons_of_ne_nil h.ne_nil
    exact ⟨j, b, by rw [Nat.zero_add], h⟩
  · rintro ⟨j, b, rfl, h⟩
    rwa [Nat.zero_add]

/-! ## Nodes with addresses -/

/-- What lies in a tree with the number `i`, with its addresses as seen from outside the tree. -/
def under (i : Nat) (vs : List (List Nat × α)) : List (List Nat × α) :=
  vs.map fun v => (i :: v.1, v.2)

theorem mem_under {vs : List (List Nat × α)} :
    (a, m) ∈ under i vs ↔ ∃ b, a = i :: b ∧ (b, m) ∈ vs := by
  rw [under, List.mem_map]
  constructor
  · rintro ⟨⟨b, _⟩, hv, heq⟩
    obtain ⟨rfl, rfl⟩ := Prod.mk.inj heq
    exact ⟨b, rfl, hv⟩
  · rintro ⟨b, rfl, hv⟩
    exact ⟨(b, m), hv, rfl⟩

theorem map_fst_under (i : Nat) (vs : List (List Nat × α)) :
    (under i vs).map Prod.fst = (vs.map Prod.fst).map (i :: ·) := by
  simp [under]

theorem map_snd_under (i : Nat) (vs : List (List Nat × α)) :
    (under i vs).map Prod.snd = vs.map Prod.snd := by
  simp [under]

end

/-! ## Orders of siblings -/

variable {Hole : Type} [HasExprs Hole]

/-- An order of siblings lists the children of each node, in an order of its own. -/
structure Siblings (Hole : Type) [HasExprs Hole] where
  list : Node Hole → List (Node Hole)
  perm (n : Node Hole) : (list n).Perm n.children

namespace Siblings

/-- The children as they are listed in the tree. -/
def inTree : Siblings Hole := ⟨children, fun _ => .refl _⟩

/-- What a walk goes to below a node, if it goes on below those nodes only that `enter` allows. -/
def below (o : Siblings Hole) (enter : Node Hole → Bool) (n : Node Hole) : List (Node Hole) :=
  if enter n then o.list n else []

theorem weights_perm {ns ms : List (Node Hole)} (h : ns.Perm ms) : weights ns = weights ms := by
  induction h with
  | nil => rfl
  | cons n _ ih => rw [weights_cons, weights_cons, ih]
  | swap n m ns =>
    simp only [weights_cons]
    omega
  | trans _ _ ih ih' => exact ih.trans ih'

theorem weights_below_lt (o : Siblings Hole) (enter : Node Hole → Bool) (n : Node Hole) :
    weights (o.below enter n) < n.weight := by
  rw [weight_eq, ← weights_perm (o.perm n), below]
  split
  · omega
  · rw [weights_nil]
    omega

/-- The nodes that a walk goes to, with their addresses, if the trees are numbered from `i` on. -/
def addressed (o : Siblings Hole) (enter : Node Hole → Bool) (i : Nat) :
    List (Node Hole) → List (List Nat × Node Hole)
  | [] => []
  | n :: ns => ([i], n) :: (under i (addressed o enter 0 (o.below enter n)) ++
      addressed o enter (i + 1) ns)
termination_by ns => weights ns
decreasing_by
  · have := o.weights_below_lt enter n
    simp only [weights_cons]
    omega
  · have := weight_eq n
    simp only [weights_cons]
    omega

variable {o : Siblings Hole} {enter : Node Hole → Bool}

/-- An address of the walk begins with the number of a tree, and goes on as one that leads from the
trees to the node. -/
theorem mem_addressed {i : Nat} {ns : List (Node Hole)} {a : List Nat} {m : Node Hole} :
    (a, m) ∈ o.addressed enter i ns ↔
      ∃ j b, a = (i + j) :: b ∧ Reaches (o.below enter) ns (j :: b) m := by
  fun_induction o.addressed enter i ns generalizing a with
  | case1 => simp [not_reaches_nil]
  | case2 i n ns ihn ihns =>
    have hfirst : (a, m) ∈ under i (o.addressed enter 0 (o.below enter n)) ↔
        ∃ b, a = i :: b ∧ Reaches (o.below enter) (o.below enter n) b m := by
      simp only [mem_under, ihn, ← reaches_iff_exists]
    rw [List.mem_cons, List.mem_append, hfirst, ihns]
    -- The address goes through the first tree, which is its number 0, or through a later one.
    constructor
    · rintro (heq | ⟨b, rfl, h⟩ | ⟨j, b, rfl, h⟩)
      · obtain ⟨rfl, rfl⟩ := Prod.mk.inj heq
        exact ⟨0, [], rfl, reaches_zero.2 (.inl ⟨rfl, rfl⟩)⟩
      · exact ⟨0, b, rfl, reaches_zero.2 (.inr h)⟩
      · exact ⟨j + 1, b, by rw [Nat.add_assoc, Nat.add_comm 1], reaches_succ.2 h⟩
    · rintro ⟨j, b, rfl, h⟩
      cases j with
      | zero =>
        rcases reaches_zero.1 h with ⟨rfl, rfl⟩ | h
        · exact .inl rfl
        · exact .inr (.inl ⟨b, rfl, h⟩)
      | succ j => exact .inr (.inr ⟨j, b, by rw [Nat.add_assoc, Nat.add_comm 1], reaches_succ.1 h⟩)

/-- The addresses of a walk come in their order. -/
theorem pairwise_addressed (i : Nat) (ns : List (Node Hole)) :
    ((o.addressed enter i ns).map Prod.fst).Pairwise (· < ·) := by
  fun_induction o.addressed enter i ns with
  | case1 => exact .nil
  | case2 i n ns ihn ihns =>
    have hbelow : ∀ a ∈ (under i (o.addressed enter 0 (o.below enter n))).map Prod.fst,
        ∃ j b, a = i :: j :: b := by
      intro a ha
      obtain ⟨⟨a, m⟩, hv, rfl⟩ := List.mem_map.1 ha
      obtain ⟨b, hb, hv'⟩ := mem_under.1 hv
      obtain ⟨j, b, rfl, -⟩ := mem_addressed.1 hv'
      exact ⟨_, b, hb⟩
    have hlater : ∀ a ∈ (o.addressed enter (i + 1) ns).map Prod.fst, ∀ b, i :: b < a := by
      intro a ha b
      obtain ⟨⟨a, m⟩, hv, rfl⟩ := List.mem_map.1 ha
      obtain ⟨j, c, rfl, -⟩ := mem_addressed.1 hv
      exact List.cons_lt_cons_iff.2 (.inl (by omega))
    rw [List.map_cons, List.map_append, List.pairwise_cons, List.pairwise_append]
    refine ⟨fun a ha => ?_, ?_, ihns, fun a ha a' ha' => ?_⟩
    · rcases List.mem_append.1 ha with ha | ha
      · obtain ⟨j, b, rfl⟩ := hbelow a ha
        exact List.cons_lt_cons_iff.2 (.inr ⟨rfl, List.nil_lt_cons j b⟩)
      · exact hlater a ha []
    · rw [map_fst_under, List.pairwise_map]
      exact ihn.imp fun h => List.cons_lt_cons_iff.2 (.inr ⟨rfl, h⟩)
    · obtain ⟨j, b, rfl⟩ := hbelow a ha
      exact hlater a' ha' (j :: b)

/-! ## What the loop visits -/

/-- Trees on top of a stack are visited first. -/
theorem stackLoop_append (i : Nat) (ns : List (Node Hole)) {todo visited : List (Node Hole)}
    (h : StackLoop (o.below enter) todo visited) :
    StackLoop (o.below enter) (todo ++ ns.reverse)
      ((o.addressed enter i ns).map Prod.snd ++ visited) := by
  fun_induction o.addressed enter i ns generalizing todo visited with
  | case1 => simpa using h
  | case2 i n ns ihn ihns =>
    simp only [List.reverse_cons, ← List.append_assoc todo, List.map_cons, List.map_append,
      map_snd_under, List.cons_append, List.append_assoc _ _ visited]
    exact .round (ihn (ihns h))

/-- **The loop ends and visits what addresses reach, each address once, in their order.** -/
theorem exists_visits (o : Siblings Hole) (enter : Node Hole → Bool) (ns : List (Node Hole)) :
    ∃ visits : List (List Nat × Node Hole),
      (∀ visited, StackLoop (o.below enter) ns.reverse visited ↔
        visited = visits.map Prod.snd) ∧
      (∀ a m, (a, m) ∈ visits ↔ Reaches (o.below enter) ns a m) ∧
      (visits.map Prod.fst).Pairwise (· < ·) := by
  have hloop : StackLoop (o.below enter) ([] ++ ns.reverse) _ := stackLoop_append 0 ns .done
  rw [List.nil_append, List.append_nil] at hloop
  refine ⟨o.addressed enter 0 ns, fun visited => ⟨fun h => h.unique hloop, fun h => h ▸ hloop⟩,
    fun a m => ?_, pairwise_addressed 0 ns⟩
  rw [mem_addressed, ← reaches_iff_exists]

theorem map_snd_addressed_inTree (i : Nat) (ns : List (Node Hole)) :
    (inTree.addressed enter i ns).map Prod.snd = walk enter ns := by
  fun_induction inTree.addressed enter i ns with
  | case1 => rw [walk, List.map_nil]
  | case2 i n ns ihn ihns =>
    rw [walk_cons, List.map_cons, List.map_append, map_snd_under, ihn, ihns, below]
    congr 2
    split
    · rfl
    · rw [walk]

/-- If the children are listed as in the tree, the loop visits the nodes of the walk. -/
theorem stackLoop_inTree {ns visited : List (Node Hole)} :
    StackLoop (inTree.below enter) ns.reverse visited ↔ visited = walk enter ns := by
  have hloop : StackLoop (inTree.below enter) ([] ++ ns.reverse) _ := stackLoop_append 0 ns .done
  rw [List.nil_append, List.append_nil, map_snd_addressed_inTree] at hloop
  exact ⟨fun h => h.unique hloop, fun h => h ▸ hloop⟩

end Siblings

end Node

end JumpMacros
