import JumpMacros.Proofs.Walk
import JumpMacros.Scope

/-!
# Variables

Which variable a name denotes is decided by the text of a module alone. A *scope* is opened by a
function, a class, a lambda or a comprehension, and a *place* is the list of the scopes around,
innermost first.

* A name that a scope binds anywhere is a variable of that scope. What an expression binds inside
  of a comprehension is bound outside of it, the targets of the comprehension excepted; and what is
  bound in the head of a definition or by the default value of a parameter is bound around it
  (`Node.bindingChildren`).
* Any other name is a variable of the nearest scope around that binds it, where the body of a class
  does not count, and of the module if there is none (`variableOf`).
* `global` and `nonlocal` make the name of a scope that of a variable farther out.

Bindings are told apart by whether they import a macro, or the package of the macros, or not.
-/

namespace JumpMacros

open Text (rootOf)

/-! ## What nodes bind -/

/-- What importing from a module binds to macros. -/
def importedFrom (package : String) (path : Option String) (level : Nat) (a : Alias) :
    List String :=
  if level = 0 && path == some package then
    if a.name == "*" then Macro.names.map rootOf
    else if Macro.names.contains a.name then [rootOf a.bound] else []
  else []

/-- What importing from a module binds otherwise. -/
def reboundFrom (package : String) (path : Option String) (level : Nat) (a : Alias) :
    List String :=
  if a.name == "*" || (level = 0 && path == some package && Macro.names.contains a.name) then []
  else [a.bound]

/-- What importing a module binds to the package. -/
def importedBy (package : String) (a : Alias) : List String :=
  if a.name == package then [rootOf a.bound]
  else if a.asName.isNone && a.name.startsWith (package ++ ".") then [rootOf a.name] else []

/-- What importing a module binds otherwise. -/
def reboundBy (package : String) (a : Alias) : List String :=
  if a.name == package then []
  else
    match a.asName with
    | some n => [n]
    | none => if a.name.startsWith (package ++ ".") then [] else [rootOf a.name]

/-- The macros and the package that a node imports, by the names they are bound to. -/
def Node.imported (package : String) : Node Empty → List String
  | .stmt (.simple _ (.importsFrom path as level)) => as.flatMap (importedFrom package path level)
  | .stmt (.simple _ (.imports as)) => as.flatMap (importedBy package)
  | _ => []

/-- The names that a node binds in any other way. -/
def Node.rebound (package : String) : Node Empty → List String
  | .stmt (.function _ h _) => [h.name]
  | .stmt (.klass _ h _) => [h.name]
  | .stmt (.simple _ (.importsFrom path as level)) => as.flatMap (reboundFrom package path level)
  | .stmt (.simple _ (.imports as)) => as.flatMap (reboundBy package)
  | .expr (.name _ x .store) | .expr (.name _ x .delete) => [x]
  | .handler (.mk _ _ n _) => n.toList
  | .pattern (.capture _ n) | .pattern (.star _ n) | .pattern (.mapping _ _ _ n) => n.toList
  | .pattern (.named _ _ n) => [n]
  | _ => []

/-- The names that a node makes names of the module. -/
def Node.globals : Node Empty → List String
  | .stmt (.simple _ (.globals ns)) => ns
  | _ => []

/-- The names that a node makes names of a function around. -/
def Node.nonlocals : Node Empty → List String
  | .stmt (.simple _ (.nonlocals ns)) => ns
  | _ => []

def Clause.target : Clause → Expr
  | .mk _ t _ _ => t

/-- What a clause evaluates, its target excepted. -/
def Clause.evaluated : Clause → List Expr
  | .mk _ _ i cs => i :: cs

namespace Node

/-- The nodes directly under a node that bind names in the scope of the node. -/
def bindingChildren : Node Empty → List (Node Empty)
  | .stmt (.function _ h _) => ofExprs h.exprs
  | .stmt (.klass _ h _) => ofExprs h.exprs
  | .expr (.lambda _ ps _) => ofExprs ps.exprs
  | .expr (.comprehension _ _ e cs) => ofExprs (e :: cs.flatMap Clause.evaluated)
  | .expr (.dictComprehension _ k v cs) => ofExprs (k :: v :: cs.flatMap Clause.evaluated)
  | n => n.children

theorem exprWeights_evaluated (cs : List Clause) :
    exprWeights (cs.flatMap Clause.evaluated) ≤ clauseWeights cs := by
  induction cs with
  | nil => exact Nat.le_refl _
  | cons c cs ih =>
    obtain ⟨a, t, i, gs⟩ := c
    simp only [List.flatMap_cons, Clause.evaluated, exprWeights_append, exprWeights, clauseWeights]
    omega

theorem weights_bindingChildren (n : Node Empty) :
    weights n.bindingChildren ≤ weights n.children := by
  unfold bindingChildren
  split
  · simp [children, ofStmt]
  · simp [children, ofStmt]
  · simp [children, Expr.children]
  · rename_i e cs
    have := exprWeights_evaluated cs
    simp only [children, Expr.children, weights_ofExprs, exprWeights, exprWeights_clauses]
    omega
  · rename_i k v cs
    have := exprWeights_evaluated cs
    simp only [children, Expr.children, weights_ofExprs, exprWeights, exprWeights_clauses]
    omega
  · exact Nat.le_refl _

/-- The nodes that bind names in the scope of some nodes. -/
def binding : List (Node Empty) → List (Node Empty)
  | [] => []
  | n :: rest => n :: binding (n.bindingChildren ++ rest)
termination_by todo => weights todo
decreasing_by
  have := weight_eq n
  have := weights_bindingChildren n
  simp
  omega

theorem binding_append (ns ms : List (Node Empty)) :
    binding (ns ++ ms) = binding ns ++ binding ms := by
  fun_induction binding ns with
  | case1 => rfl
  | case2 n rest ih =>
    rw [List.cons_append, binding, List.cons_append, ← ih, List.append_assoc]

/-- A node that opens no scope binds with all that is under it. -/
theorem bindingChildren_eq {n : Node Empty} (h : n.opensScope = false) :
    n.bindingChildren = n.children := by
  unfold bindingChildren
  split <;> first | rfl | cases h

/-- The nodes of a scope that are found without entering another scope bind in it. -/
theorem walk_subset_binding (ns : List (Node Empty)) :
    walk (fun n => !n.opensScope) ns ⊆ binding ns := by
  fun_induction walk (fun n : Node Empty => !n.opensScope) ns with
  | case1 => exact List.nil_subset _
  | case2 n rest ih =>
    rw [binding]
    refine List.cons_subset_cons n ?_
    by_cases h : n.opensScope = true
    · have hrest : walk (fun n => !n.opensScope) rest ⊆ binding rest := by simpa [h] using ih
      rw [binding_append]
      have hright := List.subset_append_right (binding n.bindingChildren) (binding rest)
      simpa [h] using List.Subset.trans hrest hright
    · simp only [Bool.not_eq_true] at h
      simpa [h, bindingChildren_eq h] using ih

end Node

/-! ## Scopes -/

/-- What opens a scope. -/
inductive Scope where
  | module (body : List (Stmt Empty))
  | function (head : FunctionHead) (body : List (Stmt Empty))
  | klass (body : List (Stmt Empty))
  | lambda (params : Params) (body : Expr)
  | comprehension (parts : List Expr) (clauses : List Clause)

namespace Scope

/-- The names of the parameters. -/
def params : Scope → List String
  | .function h _ => h.params.names
  | .lambda ps _ => ps.names
  | _ => []

/-- The nodes in which a scope's names are bound. Of a comprehension these are the targets. -/
def roots : Scope → List (Node Empty)
  | .module b | .function _ b | .klass b => Node.ofStmts b
  | .lambda _ b => [.expr b]
  | .comprehension _ cs => Node.ofExprs (cs.map Clause.target)

/-- The names that a scope binds otherwise than by importing a macro or the package. -/
def rebound (package : String) (S : Scope) : List String :=
  S.params ++ (Node.binding S.roots).flatMap (Node.rebound package)

/-- The names of macros and of the package that a scope imports. -/
def imported (package : String) (S : Scope) : List String :=
  (Node.binding S.roots).flatMap (Node.imported package)

/-- All names that a scope binds. -/
def names (package : String) (S : Scope) : List String :=
  S.rebound package ++ S.imported package

def globals (S : Scope) : List String := (Node.binding S.roots).flatMap Node.globals

def nonlocals (S : Scope) : List String := (Node.binding S.roots).flatMap Node.nonlocals

end Scope

/-- The scopes around, innermost first. -/
abbrev Place := List Scope

/-- The scope of the module. -/
def moduleOf : Place → Place
  | [] => []
  | .module b :: outer => .module b :: outer
  | _ :: outer => moduleOf outer

/-- The scope of the variable that a name denotes in a scope inside of a place, which does not bind
the name itself. -/
def enclosingOf (package x : String) : Place → Place
  | [] => []
  | .module b :: outer => .module b :: outer
  | .klass _ :: outer => enclosingOf package x outer
  | S :: outer =>
    if S.globals.contains x then moduleOf outer
    else if S.nonlocals.contains x then enclosingOf package x outer
    else if (S.names package).contains x then S :: outer
    else enclosingOf package x outer

/-- **The variable that a name denotes at a place**, given by the scope it belongs to. -/
def variableOf (package x : String) : Place → Place
  | [] => []
  | .module b :: outer => .module b :: outer
  | S :: outer =>
    if S.globals.contains x then moduleOf outer
    else if S.nonlocals.contains x then enclosingOf package x outer
    else if (S.names package).contains x then S :: outer
    else enclosingOf package x outer

/-! The scope of a variable is one of those around. -/

section

variable {package x : String}

theorem moduleOf_suffix (place : Place) : moduleOf place <:+ place := by
  fun_induction moduleOf place with
  | case1 => exact List.suffix_refl _
  | case2 => exact List.suffix_refl _
  | case3 S outer _ ih => exact ih.trans (List.suffix_cons S outer)

theorem enclosingOf_suffix (place : Place) : enclosingOf package x place <:+ place := by
  fun_induction enclosingOf package x place with
  | case1 => exact List.suffix_refl _
  | case2 => exact List.suffix_refl _
  | case3 b outer ih => exact ih.trans (List.suffix_cons (Scope.klass b) outer)
  | case4 S outer => exact (moduleOf_suffix outer).trans (List.suffix_cons S outer)
  | case5 S outer _ _ _ _ ih => exact ih.trans (List.suffix_cons S outer)
  | case6 => exact List.suffix_refl _
  | case7 S outer _ _ _ _ _ ih => exact ih.trans (List.suffix_cons S outer)

theorem variableOf_suffix (place : Place) : variableOf package x place <:+ place := by
  fun_cases variableOf package x place with
  | case1 => exact List.suffix_refl _
  | case2 => exact List.suffix_refl _
  | case3 S outer => exact (moduleOf_suffix outer).trans (List.suffix_cons S outer)
  | case4 S outer => exact (enclosingOf_suffix outer).trans (List.suffix_cons S outer)
  | case5 => exact List.suffix_refl _
  | case6 S outer => exact (enclosingOf_suffix outer).trans (List.suffix_cons S outer)

end

end JumpMacros
