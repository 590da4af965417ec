import JumpMacros.Proofs.CallVisits
import JumpMacros.Proofs.KnownMacros
import JumpMacros.Proofs.ShrunkScopes
import Mathlib

/-!
# The calls below a node

The calls of a module are gathered over its statements. Here they are told of each node of the tree
instead: its invocations in source order, and its misplaced calls in any order. Statements list the
expressions of their handlers and cases before the statements in them, so the order of misplaced
calls is not that of the nodes.

For a statement that is a call, `invocations_call`, `misplaced_invocation` and `misplaced_plain` say
what the lookup of its name decides.
-/

namespace JumpMacros

open Node (ofExprs ofStmts)

/-! ## The calls of nodes -/

section

variable (package : String) (env : Env)

/-- The invocations in a tree. -/
def Node.invocations : Node Empty → List Invocation
  | .stmt s => JumpMacros.invocations package env [s]
  | .handler (.mk _ _ _ b) | .case (.mk _ _ b) => JumpMacros.invocations package env b
  | .expr _ | .pattern _ => []

/-- The misplaced calls in a tree, in any order. -/
def Node.misplaced : Node Empty → Multiset MisplacedCall
  | .stmt s => misplacedCalls package env [s]
  | .expr e => e.misplaced env
  | .pattern p => p.allExprs.flatMap (Expr.misplaced env)
  | .handler (.mk _ t _ b) =>
    ↑(t.toList.flatMap (Expr.misplaced env)) + ↑(misplacedCalls package env b)
  | .case (.mk p g b) =>
    ↑((p.allExprs ++ g.toList).flatMap (Expr.misplaced env)) + ↑(misplacedCalls package env b)

def Node.allInvocations (ns : List (Node Empty)) : List Invocation :=
  ns.flatMap (Node.invocations package env)

def Node.allMisplaced (ns : List (Node Empty)) : Multiset MisplacedCall :=
  (ns.map (Node.misplaced package env)).sum

end

section

variable {package : String} {env : Env}

theorem invocations_cons (s : Stmt Empty) (b : List (Stmt Empty)) :
    invocations package env (s :: b) =
      invocations package env [s] ++ invocations package env b := by
  simp [invocations, Stmt.gatherAll]

theorem misplacedCalls_cons (s : Stmt Empty) (b : List (Stmt Empty)) :
    misplacedCalls package env (s :: b) =
      misplacedCalls package env [s] ++ misplacedCalls package env b := by
  simp [misplacedCalls, Stmt.gatherAll]

namespace Node

theorem allInvocations_ofStmts (b : List (Stmt Empty)) :
    allInvocations package env (ofStmts b) = JumpMacros.invocations package env b := by
  induction b with
  | nil => rfl
  | cons s b ih =>
    rw [invocations_cons, ← ih]
    rfl

theorem allInvocations_ofExprs (es : List Expr) :
    allInvocations package env (ofExprs es) = [] := by
  simp [allInvocations, ofExprs, Node.invocations]

theorem allInvocations_expr (e : Expr) (ns : List (Node Empty)) :
    allInvocations package env (.expr e :: ns) = allInvocations package env ns := rfl

theorem allInvocations_patterns (ps : List Pattern) :
    allInvocations package env (ps.map .pattern) = [] := by
  simp [allInvocations, Node.invocations]

theorem allInvocations_append (ns ns' : List (Node Empty)) :
    allInvocations package env (ns ++ ns') =
      allInvocations package env ns ++ allInvocations package env ns' :=
  List.flatMap_append

theorem allMisplaced_append (ns ns' : List (Node Empty)) :
    allMisplaced package env (ns ++ ns') =
      allMisplaced package env ns + allMisplaced package env ns' := by
  simp [allMisplaced]

theorem allMisplaced_ofStmts (b : List (Stmt Empty)) :
    allMisplaced package env (ofStmts b) = misplacedCalls package env b := by
  induction b with
  | nil => rfl
  | cons s b ih =>
    rw [misplacedCalls_cons, ← Multiset.coe_add, ← ih]
    simp [allMisplaced, ofStmts, Node.misplaced]

theorem allMisplaced_ofExprs (es : List Expr) :
    allMisplaced package env (ofExprs es) = es.flatMap (Expr.misplaced env) := by
  induction es with
  | nil => rfl
  | cons e es ih =>
    rw [List.flatMap_cons, ← Multiset.coe_add, ← ih]
    simp [allMisplaced, ofExprs, Node.misplaced]

theorem allMisplaced_cons (n : Node Empty) (ns : List (Node Empty)) :
    allMisplaced package env (n :: ns) = n.misplaced package env + allMisplaced package env ns := by
  simp [allMisplaced]

theorem allInvocations_handlers (hs : List (Handler Empty)) :
    allInvocations package env (hs.map .handler) =
      Handler.gatherAll package (fun env s => (s.invocation? env).toList) env hs := by
  induction hs with
  | nil => rfl
  | cons h hs ih =>
    obtain ⟨p, t, n, b⟩ := h
    exact congrArg (JumpMacros.invocations package env b ++ ·) ih

theorem allInvocations_cases (cs : List (Case Empty)) :
    allInvocations package env (cs.map .case) =
      Case.gatherAll package (fun env s => (s.invocation? env).toList) env cs := by
  induction cs with
  | nil => rfl
  | cons c cs ih =>
    obtain ⟨p, g, b⟩ := c
    exact congrArg (JumpMacros.invocations package env b ++ ·) ih

/-- Handlers have the calls of their own expressions and those of the statements in them. -/
theorem allMisplaced_handlers (hs : List (Handler Empty)) :
    allMisplaced package env (hs.map .handler) =
      ↑((hs.flatMap Handler.exprs).flatMap (Expr.misplaced env)) +
        ↑(Handler.gatherAll package (fun env s => (s.ownExprs env).flatMap (Expr.misplaced env))
          env hs) := by
  induction hs with
  | nil => rfl
  | cons h hs ih =>
    obtain ⟨p, t, n, b⟩ := h
    rw [List.map_cons, allMisplaced_cons, ih, List.flatMap_cons, List.flatMap_append,
      Handler.gatherAll, ← Multiset.coe_add, ← Multiset.coe_add, Node.misplaced, Handler.exprs,
      misplacedCalls]
    ac_rfl

/-- So do cases. -/
theorem allMisplaced_cases (cs : List (Case Empty)) :
    allMisplaced package env (cs.map .case) =
      ↑((cs.flatMap Case.exprs).flatMap (Expr.misplaced env)) +
        ↑(Case.gatherAll package (fun env s => (s.ownExprs env).flatMap (Expr.misplaced env))
          env cs) := by
  induction cs with
  | nil => rfl
  | cons c cs ih =>
    obtain ⟨p, g, b⟩ := c
    rw [List.map_cons, allMisplaced_cons, ih, List.flatMap_cons, List.flatMap_append,
      Case.gatherAll, ← Multiset.coe_add, ← Multiset.coe_add, Node.misplaced, Case.exprs,
      misplacedCalls]
    ac_rfl

theorem allMisplaced_patterns (ps : List Pattern) :
    allMisplaced package env (ps.map .pattern) =
      (Pattern.listExprs ps).flatMap (Expr.misplaced env) := by
  induction ps with
  | nil => rfl
  | cons p ps ih =>
    rw [List.map_cons, allMisplaced_cons, ih, Pattern.listExprs, List.flatMap_append,
      ← Multiset.coe_add]
    rfl

end Node

theorem Pattern.listExprs_append (ps qs : List Pattern) :
    listExprs (ps ++ qs) = listExprs ps ++ listExprs qs := by
  induction ps with
  | nil => rfl
  | cons p ps ih => rw [List.cons_append, listExprs, ih, listExprs, List.append_assoc]

/-- All expressions of a pattern are its own and those of the patterns directly under it. -/
theorem Pattern.allExprs_eq (p : Pattern) : p.allExprs = p.exprs ++ listExprs p.children := by
  cases p <;> simp [allExprs, exprs, children, listExprs, listExprs_append]

end

/-! ## Nodes that are calls -/

/-- A call, or a statement that is one. -/
def Node.isCall : Node Empty → Bool
  | .stmt (.simple _ (.expr (.call _ _ _ _))) | .expr (.call _ _ _ _) => true
  | _ => false

theorem invocation?_of_isCall {s : Stmt Empty} {env : Env} (h : (Node.stmt s).isCall = false) :
    s.invocation? env = none := by
  unfold Stmt.invocation?
  split
  · cases h
  · rfl

/-- The misplaced calls in a statement: those in its own expressions, and those in the statements
below. -/
theorem misplaced_stmt {package : String} {env : Env} (s : Stmt Empty) :
    (Node.stmt s).misplaced package env =
      ↑(s.gather package (fun env s => (s.ownExprs env).flatMap (Expr.misplaced env)) env) :=
  congrArg _ (List.append_nil _)

section

variable {package : String} {env : Env} {sp : Span} {p : Position} {f : Expr} {as : List Expr}
  {ks : List Keyword}

theorem invocation?_call (sp : Span) (p : Position) (f : Expr) (as : List Expr)
    (ks : List Keyword) : (Stmt.simple sp (.expr (.call p f as ks))).invocation? env =
      (env.resolve f.dotted).map fun name => ⟨name, as, ks, some sp⟩ := rfl

theorem invocations_call :
    (Node.stmt (.simple sp (.expr (.call p f as ks)))).invocations package env =
      ((env.resolve f.dotted).map fun name => ⟨name, as, ks, some sp⟩).toList := by
  rw [← invocation?_call sp p f as ks]
  simp [Node.invocations, JumpMacros.invocations, Stmt.gatherAll, Stmt.gather]

/-- In an invocation only the arguments count. -/
theorem misplaced_invocation {name : String} (hf : env.resolve f.dotted = some name) :
    (Node.stmt (.simple sp (.expr (.call p f as ks)))).misplaced package env =
      ↑((as ++ ks.map Keyword.value).flatMap (Expr.misplaced env)) := by
  rw [misplaced_stmt, Stmt.gather]
  simp [Stmt.ownExprs, invocation?_call, hf]

/-- A statement that is a call of something else has the calls of its expression. -/
theorem misplaced_plain (hf : env.resolve f.dotted = none) :
    (Node.stmt (.simple sp (.expr (.call p f as ks)))).misplaced package env =
      (Node.expr (.call p f as ks)).misplaced package env := by
  rw [misplaced_stmt, Stmt.gather]
  simp [Stmt.ownExprs, invocation?_call, hf, Simple.exprs, Node.misplaced]

end

end JumpMacros
