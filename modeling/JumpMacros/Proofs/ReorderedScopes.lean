import JumpMacros.Proofs.BareNames
import JumpMacros.Proofs.PreOrder
import Mathlib.Data.List.Perm.Basic

/-!
# The scan of a scope

The table of a scope is made from the nodes of the scope, in the order in which they are visited.

**Theorem (`scope_scanned_in_order`).** The loop that visits the nodes of a scope ends. It visits
what can be reached from the statements of the scope without going below a node that opens a scope
of its own, such nodes included, every occurrence once and in pre-order. The statements can be
permuted without a change of the table, as long as no two imports bind the same spelling to
different macros.

The order of the nodes decides which of several imports of a spelling is the last, and nothing else:
what is hidden is hidden wherever the other binding stands. Imports that never contradict each other
commute (`lookup_addDenoted_perm`).
-/

namespace JumpMacros

open Node (ofStmts scopeNodes StackLoop Reaches Siblings)

/-- What the walk over a scope goes to below a node, with its children in some order. -/
def Node.Siblings.inScope {Hole : Type} [HasExprs Hole] (o : Siblings Hole) :
    Node Hole → List (Node Hole) :=
  o.below fun n => !n.opensScope

/-! ## Imports that do not contradict each other -/

/-- On its own, a node makes a spelling denote a macro. If it imports several macros under the same
spelling, the last of them counts. -/
def Node.Imports (package : String) (n : Node Empty) (spelling name : String) : Prop :=
  (addDenoted [] (n.bindings package)).lookup spelling = some name

/-- No two imports in some nodes bind the same spelling to different macros. -/
def OneMacroEach (package : String) (ns : List (Node Empty)) : Prop :=
  ∀ n ∈ ns, ∀ n' ∈ ns, ∀ spelling name name', n.Imports package spelling name →
    n'.Imports package spelling name' → name = name'

section

variable {package : String} {ns ns' : List (Node Empty)}

theorem lookup_addDenoted (t : Table) (bs : List Binding) (spelling : String) :
    (addDenoted t bs).lookup spelling =
      ((addDenoted [] bs).lookup spelling).or (t.lookup spelling) := by
  rw [addDenoted_eq, addDenoted_eq, Table.lookup_insertAll, Table.lookup_insertAll,
    List.lookup_nil, Option.or_none]

theorem mem_bindings_of_imports {n : Node Empty} {spelling name : String}
    (h : n.Imports package spelling name) : .denotes spelling name ∈ n.bindings package := by
  rw [Node.Imports, addDenoted_eq, Table.lookup_insertAll, List.lookup_nil, Option.or_none] at h
  exact denotes_of_lookup h

/-- It is enough that no two imported names contradict each other, those of one import included. -/
theorem OneMacroEach.of_bindings (h : ∀ spelling name name',
    .denotes spelling name ∈ ns.flatMap (Node.bindings package) →
      .denotes spelling name' ∈ ns.flatMap (Node.bindings package) → name = name') :
    OneMacroEach package ns :=
  fun n hn n' hn' spelling name name' hname hname' => h spelling name name'
    (List.mem_flatMap.2 ⟨n, hn, mem_bindings_of_imports hname⟩)
    (List.mem_flatMap.2 ⟨n', hn', mem_bindings_of_imports hname'⟩)

/-- What a spelling denotes after a visit to a node, if `before` tells what it denoted before. -/
def Node.redefine (package : String) (before : String → Option String) (n : Node Empty)
    (spelling : String) : Option String :=
  ((addDenoted [] (n.bindings package)).lookup spelling).or (before spelling)

theorem lookup_addDenoted_flatMap (t : Table) (ns : List (Node Empty)) :
    (fun spelling => (addDenoted t (ns.flatMap (Node.bindings package))).lookup spelling) =
      ns.foldl (Node.redefine package) fun spelling => t.lookup spelling := by
  induction ns generalizing t with
  | nil => rfl
  | cons n ns ih =>
    have hn : (fun spelling => (addDenoted t (n.bindings package)).lookup spelling) =
        Node.redefine package (fun spelling => t.lookup spelling) n :=
      funext (lookup_addDenoted t _)
    rw [List.flatMap_cons, addDenoted_append, ih, hn, List.foldl_cons]

/-- Nodes that do not contradict each other can be visited in either order. -/
theorem redefine_comm (h : OneMacroEach package ns) {n n' : Node Empty} (hn : n ∈ ns)
    (hn' : n' ∈ ns) (before : String → Option String) :
    Node.redefine package (Node.redefine package before n) n' =
      Node.redefine package (Node.redefine package before n') n := by
  funext spelling
  unfold Node.redefine
  cases hname : (addDenoted [] (n.bindings package)).lookup spelling with
  | none => rfl
  | some name =>
    cases hname' : (addDenoted [] (n'.bindings package)).lookup spelling with
    | none => rfl
    | some name' => rw [h n hn n' hn' spelling name name' hname hname']

/-- **Imports that do not contradict each other commute.** -/
theorem lookup_addDenoted_perm (hp : ns'.Perm ns) (h : OneMacroEach package ns) (t : Table)
    (spelling : String) :
    (addDenoted t (ns'.flatMap (Node.bindings package))).lookup spelling =
      (addDenoted t (ns.flatMap (Node.bindings package))).lookup spelling := by
  have hfold := hp.symm.foldl_eq' (f := Node.redefine package)
    (fun n hn n' hn' before => redefine_comm h hn hn' before) fun spelling => t.lookup spelling
  rw [← lookup_addDenoted_flatMap, ← lookup_addDenoted_flatMap] at hfold
  exact (congrFun hfold spelling).symm

end

/-! ## Permuted statements -/

theorem scopeNodes_eq_flatMap (body : List (Stmt Empty)) :
    scopeNodes body = body.flatMap fun s => scopeNodes [s] := by
  induction body with
  | nil => simp [scopeNodes, ofStmts, Node.walk]
  | cons s body ih =>
    rw [List.flatMap_cons, ← ih]
    exact Node.walk_append _ [.stmt s] (ofStmts body)

theorem scopeNodes_perm {body body' : List (Stmt Empty)} (hp : body'.Perm body) :
    (scopeNodes body').Perm (scopeNodes body) := by
  rw [scopeNodes_eq_flatMap, scopeNodes_eq_flatMap body]
  exact hp.flatMap_right _

theorem lookup_scopeTable_perm {package : String} {body body' : List (Stmt Empty)}
    (hp : body'.Perm body) (h : OneMacroEach package (scopeNodes body)) (enclosing : Table)
    (params : List String) (spelling : String) :
    (scopeTable package body' enclosing params).lookup spelling =
      (scopeTable package body enclosing params).lookup spelling := by
  have hnodes := scopeNodes_perm hp
  have hbound : (boundNames (scopeBindings package body')).Perm
      (boundNames (scopeBindings package body)) := (hnodes.flatMap_right _).filterMap _
  have himports := lookup_addDenoted_perm hnodes h enclosing spelling
  unfold scopeTable
  simp only [Table.lookup_without, (hbound.append_left params).mem_iff]
  rw [scopeBindings, scopeBindings, himports]

/-- **A scope is visited in order, and the order of its statements does not matter** as long as its
imports do not contradict each other: every spelling then denotes the same. -/
theorem scope_scanned_in_order (package : String) (body : List (Stmt Empty)) :
    (∀ o : Siblings Empty, ∃ visits : List (List Nat × Node Empty),
      (∀ visited, StackLoop o.inScope (ofStmts body).reverse visited ↔
        visited = visits.map Prod.snd) ∧
      (∀ a n, (a, n) ∈ visits ↔ Reaches o.inScope (ofStmts body) a n) ∧
      (visits.map Prod.fst).Pairwise (· < ·)) ∧
    (∀ visited, StackLoop Siblings.inTree.inScope (ofStmts body).reverse visited ↔
      visited = scopeNodes body) ∧
    ∀ body' : List (Stmt Empty), body'.Perm body → OneMacroEach package (scopeNodes body) →
      ∀ enclosing params spelling, (scopeTable package body' enclosing params).lookup spelling =
        (scopeTable package body enclosing params).lookup spelling :=
  ⟨fun o => o.exists_visits _ (ofStmts body), fun _ => Siblings.stackLoop_inTree,
    fun _ hp h => lookup_scopeTable_perm hp h⟩

namespace Reordered

/-- `from flow_control import break_if as leave`. -/
def leaveImport : Stmt Empty :=
  .simple default (.importsFrom (some "flow_control") [⟨default, "break_if", some "leave"⟩] 0)

/-- `from flow_control import label`. -/
def labelImport : Stmt Empty :=
  .simple default (.importsFrom (some "flow_control") [⟨default, "label", none⟩] 0)

/-- `label = 0`. -/
def labelAssignment : Stmt Empty :=
  .simple default (.assign [.name default "label" .store] (.const default (.int 0)))

/-- A macro is imported twice under the same name, and another one is hidden. -/
def body : List (Stmt Empty) :=
  [leaveImport, labelImport, .branch default (.name default "p" .load) [leaveImport] [],
    labelAssignment]

end Reordered

open Reordered in
/-- A body whose imports do not contradict each other, read backwards. -/
theorem scope_scanned_in_order_backwards :
    body.reverse.Perm body ∧ OneMacroEach "flow_control" (scopeNodes body) ∧
      (scopeTable "flow_control" body.reverse [] []).lookup "leave" = some "break_if" ∧
      (scopeTable "flow_control" body.reverse [] []).lookup "label" = none := by
  have hnodes : scopeNodes body = [.stmt leaveImport, .stmt labelImport,
      .stmt (.branch default (.name default "p" .load) [leaveImport] []),
      .expr (.name default "p" .load), .stmt leaveImport, .stmt labelAssignment,
      .expr (.name default "label" .store), .expr (.const default (.int 0))] := by
    simp [scopeNodes, body, leaveImport, labelImport, labelAssignment, ofStmts, Node.ofExprs,
      Node.walk, Node.opensScope, Node.children, Node.ofStmt, Simple.exprs, Expr.children]
  have hbindings : scopeBindings "flow_control" body = [.denotes "leave" "break_if",
      .denotes "label" "label", .denotes "leave" "break_if", .binds "label"] := by
    rw [scopeBindings, hnodes]
    decide
  have hone : OneMacroEach "flow_control" (scopeNodes body) := by
    refine .of_bindings fun spelling name name' h h' => ?_
    change _ ∈ scopeBindings "flow_control" body at h h'
    rw [hbindings] at h h'
    grind
  have hscan := (scope_scanned_in_order "flow_control" body).2.2 body.reverse body.reverse_perm hone
  refine ⟨body.reverse_perm, hone, ?_⟩
  rw [hscan, hscan, scopeTable, hbindings]
  decide

end JumpMacros
