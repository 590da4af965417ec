import JumpMacros.Proofs.FlagHygiene
import JumpMacros.Proofs.JumpLayout
import Mathlib

/-!
# How often a name occurs

`Node.uses` counts the places of a tree where a name is written. It is a sum over the parts of a
statement, one lemma for each kind of statement. Of the statements that lowering makes, a plain jump
has no name, an assignment and a check have that of their flag, and the checks of different flags
after one loop have each flag once (`uses_checks`).
-/

namespace JumpMacros

open Node (ofStmts ofExprs NamedIn)
open Lower (plainJump setFlag check setFlag_eq check_eq)

/-! ## Counting names -/

namespace Node

variable {Hole : Type} [HasExprs Hole] {x : String}

/-- How often a name occurs in some trees. -/
def uses (x : String) (ns : List (Node Hole)) : Nat := ((all ns).flatMap ownNames).count x

@[simp] theorem uses_nil : uses x ([] : List (Node Hole)) = 0 := by simp [uses, all, walk]

theorem uses_cons (n : Node Hole) (ns : List (Node Hole)) :
    uses x (n :: ns) = n.ownNames.count x + uses x n.children + uses x ns := by
  simp [uses, all, walk_cons, List.count_append, Nat.add_assoc]

theorem uses_singleton (n : Node Hole) :
    uses x [n] = n.ownNames.count x + uses x n.children := by
  rw [uses_cons, uses_nil, Nat.add_zero]

@[simp] theorem uses_append (ns ms : List (Node Hole)) :
    uses x (ns ++ ms) = uses x ns + uses x ms := by
  simp [uses, all, walk_append, List.count_append]

@[simp] theorem uses_ofStmts_append (b b' : List (Stmt Hole)) :
    uses x (ofStmts (b ++ b')) = uses x (ofStmts b) + uses x (ofStmts b') := by
  simp [ofStmts]

/-- A name that is not among those of some trees does not occur in them. -/
theorem NamedIn.uses_eq_zero {names : List String} {ns : List (Node Hole)}
    (h : NamedIn names ns) (hx : x ∉ names) : uses x ns = 0 := by
  refine List.count_eq_zero.2 fun hmem => ?_
  obtain ⟨n, hn, hown⟩ := List.mem_flatMap.1 hmem
  exact hx (every_iff_all.1 h n hn x hown)

theorem uses_name (p : Position) (y : String) (u : NameUse) :
    uses x [(.expr (.name p y u) : Node Hole)] = if y = x then 1 else 0 := by
  rw [uses_cons]
  simp [ownNames, children, Expr.children, ofExprs, List.count_singleton]

end Node

/-! Occurrences in a lowered statement, by its parts. -/

section

open Node

variable {x : String} {sp : Span} {b o f : List (Stmt Empty)}

theorem uses_branch {t : Expr} : uses x [(.stmt (.branch sp t b o) : Node Empty)] =
    uses x [(.expr t : Node Empty)] + uses x (ofStmts b) + uses x (ofStmts o) := by
  rw [uses_singleton, children, ofStmt, uses_append, ← List.singleton_append, uses_append]
  simp [ownNames]

theorem uses_loop {h : LoopHead} : uses x [(.stmt (.loop sp h b o) : Node Empty)] =
    uses x (ofExprs h.exprs : List (Node Empty)) + uses x (ofStmts b) + uses x (ofStmts o) := by
  rw [uses_singleton, children, ofStmt, uses_append, uses_append]
  simp [ownNames]

theorem uses_function {h : FunctionHead} : uses x [(.stmt (.function sp h b) : Node Empty)] =
    (h.name :: h.params.names).count x + uses x (ofExprs h.exprs : List (Node Empty)) +
      uses x (ofStmts b) := by
  rw [uses_singleton, children, ofStmt, uses_append, Nat.add_assoc]
  rfl

theorem uses_klass {h : ClassHead} : uses x [(.stmt (.klass sp h b) : Node Empty)] =
    [h.name].count x + uses x (ofExprs h.exprs : List (Node Empty)) + uses x (ofStmts b) := by
  rw [uses_singleton, children, ofStmt, uses_append, Nat.add_assoc]
  rfl

theorem uses_withItems {a : Bool} {is : List WithItem} :
    uses x [(.stmt (.withItems sp a is b) : Node Empty)] =
      uses x (ofExprs (is.flatMap WithItem.exprs) : List (Node Empty)) + uses x (ofStmts b) := by
  rw [uses_singleton, children, ofStmt, uses_append]
  simp [ownNames]

theorem uses_attempt {star : Bool} {hs : List (Handler Empty)} :
    uses x [(.stmt (.attempt sp star b hs o f) : Node Empty)] =
      uses x (ofStmts b) + uses x (hs.map .handler) + uses x (ofStmts o) + uses x (ofStmts f) := by
  rw [uses_singleton, children, ofStmt, uses_append, uses_append, uses_append]
  simp [ownNames]

theorem uses_select {e : Expr} {cs : List (Case Empty)} :
    uses x [(.stmt (.select sp e cs) : Node Empty)] =
      uses x [(.expr e : Node Empty)] + uses x (cs.map .case) := by
  rw [uses_singleton, children, ofStmt, ← List.singleton_append, uses_append]
  simp [ownNames]

theorem uses_handlers {p : Position} {t : Option Expr} {n : Option String}
    {hs : List (Handler Empty)} : uses x ((Handler.mk p t n b :: hs).map .handler) =
      n.toList.count x + uses x (ofExprs t.toList : List (Node Empty)) + uses x (ofStmts b) +
        uses x (hs.map .handler) := by
  rw [List.map_cons, uses_cons, children, uses_append]
  cases n <;> simp [ownNames, Nat.add_assoc]

theorem uses_cases {p : Pattern} {g : Option Expr} {cs : List (Case Empty)} :
    uses x ((Case.mk p g b :: cs).map .case) =
      uses x [(.pattern p : Node Empty)] + uses x (ofExprs g.toList : List (Node Empty)) +
        uses x (ofStmts b) + uses x (cs.map .case) := by
  rw [List.map_cons, uses_cons, children, uses_append, ← List.singleton_append, uses_append]
  simp [ownNames]

theorem uses_plainJump (k : JumpKind) : uses x (ofStmts [plainJump sp k]) = 0 := by
  cases k <;>
    simp [uses_cons, ofStmts, plainJump, ownNames, children, ofStmt, Simple.exprs, ofExprs]

theorem uses_setFlag (y : String) (v : Bool) :
    uses x (ofStmts [setFlag sp y v]) = if y = x then 1 else 0 := by
  have hconst : uses x [(.expr (.const sp.start (.bool v)) : Node Empty)] = 0 := by
    simp [uses_cons, ownNames, children, Expr.children, ofExprs]
  rw [ofStmts, List.map_singleton, uses_singleton]
  show 0 + uses x ([(.expr (.name sp.start y .store) : Node Empty)] ++
    [.expr (.const sp.start (.bool v))]) = _
  rw [uses_append, uses_name, hconst, Nat.zero_add, Nat.add_zero]

theorem uses_check (e : Exit) : uses x (ofStmts [check sp e]) = if e.1 = x then 1 else 0 := by
  rw [ofStmts, List.map_singleton, check_eq, uses_branch, uses_name, uses_plainJump]
  simp [ofStmts]

theorem uses_resets (y : Option String) :
    uses x (ofStmts (resets sp y)) = if y = some x then 1 else 0 := by
  cases y with
  | none => simp [resets, ofStmts]
  | some y => simp [resets, uses_setFlag]

/-- Checks that are for one flag each use a flag at most once. -/
theorem uses_checks {es : List Exit} (h : (es.map Prod.fst).Nodup) :
    uses x (ofStmts (es.map (check sp))) = if x ∈ es.map Prod.fst then 1 else 0 := by
  have hcount : uses x (ofStmts (es.map (check sp))) = (es.map Prod.fst).count x := by
    clear h
    induction es with
    | nil => simp [ofStmts]
    | cons e es ih =>
      rw [List.map_cons, ← List.singleton_append, uses_ofStmts_append, uses_check, ih,
        List.map_cons, List.count_cons]
      simp [Nat.add_comm]
  rw [hcount, h.count]

end

end JumpMacros
