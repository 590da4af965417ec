import JumpMacros.Proofs.CallSites
import JumpMacros.Proofs.Walk
import Mathlib.Algebra.Order.Group.Multiset

/-!
# Every call is visited once

**Theorem (`Module.calls_visits`).** The visits of a module have all the calls of its tree, each of
them once.

Statements list the expressions of their handlers and cases before the statements in them, while
the nodes of a tree come in source order. The theorem therefore speaks of multisets of calls.
-/

namespace JumpMacros

/-! ## The calls of a tree -/

/-- The call that a node is. -/
def Node.call? : Node Empty → Option Expr
  | .expr (.call p f as ks) => some (.call p f as ks)
  | _ => none

/-- The call that is visited. A statement that is a call stands for the call. -/
def Visit.call? (v : Visit) : Option Expr :=
  match v.node with
  | .stmt (.simple _ (.expr e)) => Node.call? (.expr e)
  | n => n.call?

/-- The calls in some trees. -/
def Node.calls (ns : List (Node Empty)) : Multiset Expr := (Node.all ns).filterMap Node.call?

/-- The calls that are visited. -/
def Visit.calls (vs : List Visit) : Multiset Expr := vs.filterMap Visit.call?

namespace Node

@[simp] theorem calls_nil : calls [] = 0 := by
  simp [calls, all, walk]

/-- The calls of a tree are the root, if it is one, and those below. -/
theorem calls_singleton (n : Node Empty) : calls [n] = n.call?.toList + calls n.children := by
  simp only [calls, all, walk_cons, if_true, Multiset.coe_add, List.filterMap_cons]
  cases h : n.call? <;> simp [walk]

@[simp] theorem calls_append (ns ms : List (Node Empty)) :
    calls (ns ++ ms) = calls ns + calls ms := by
  simp [calls, all, walk_append, ← Multiset.coe_add]

theorem calls_cons (n : Node Empty) (ns : List (Node Empty)) :
    calls (n :: ns) = calls [n] + calls ns := calls_append [n] ns

theorem calls_ofExprs_append (es fs : List Expr) :
    calls (ofExprs (es ++ fs)) = calls (ofExprs es) + calls (ofExprs fs) := by
  rw [ofExprs, List.map_append, calls_append]
  rfl

theorem calls_ofExprs_cons (e : Expr) (es : List Expr) :
    calls (ofExprs (e :: es)) = calls [.expr e] + calls (ofExprs es) :=
  calls_ofExprs_append [e] es

theorem calls_ofStmts_cons (s : Stmt Empty) (ss : List (Stmt Empty)) :
    calls (ofStmts (s :: ss)) = calls [.stmt s] + calls (ofStmts ss) :=
  calls_append [.stmt s] (ofStmts ss)

/-- A statement holds the calls of what is directly under it. -/
theorem calls_stmt (s : Stmt Empty) : calls [.stmt s] = calls (ofStmt s) := by
  simp [calls_singleton, call?, children]

/-- A pattern holds the calls of its expressions and of the patterns in it. -/
theorem calls_pattern_eq (p : Pattern) :
    calls [.pattern p] = calls (ofExprs p.exprs) + calls (p.children.map .pattern) := by
  simp [calls_singleton, call?, children]

mutual

/-- The calls in a pattern are those in its expressions. -/
theorem calls_pattern : ∀ p : Pattern, calls [.pattern p] = calls (ofExprs p.allExprs)
  | .value _ e => by simp [calls_pattern_eq, Pattern.exprs, Pattern.children, Pattern.allExprs]
  | .singleton _ _ | .star _ _ | .capture _ _ => by
    simp [calls_pattern_eq, Pattern.exprs, Pattern.children, Pattern.allExprs, ofExprs]
  | .sequence _ ps | .alternatives _ ps => by
    rw [calls_pattern_eq, Pattern.allExprs, ← calls_patterns ps]
    simp [Pattern.exprs, Pattern.children, ofExprs]
  | .mapping _ ks ps _ => by
    rw [calls_pattern_eq, Pattern.allExprs, calls_ofExprs_append, ← calls_patterns ps]
    rfl
  | .klass _ c ps _ qs => by
    rw [calls_pattern_eq, Pattern.allExprs, calls_ofExprs_append, calls_ofExprs_cons,
      ← calls_patterns ps, ← calls_patterns qs]
    simp [Pattern.exprs, Pattern.children, ofExprs, add_assoc]
  | .named _ p _ => by
    rw [calls_pattern_eq, Pattern.allExprs, ← calls_pattern p]
    simp [Pattern.exprs, Pattern.children, ofExprs]

theorem calls_patterns : ∀ ps : List Pattern,
    calls (ps.map .pattern) = calls (ofExprs (Pattern.listExprs ps))
  | [] => rfl
  | p :: ps => by
    rw [List.map_cons, calls_cons, calls_pattern p, calls_patterns ps, Pattern.listExprs,
      calls_ofExprs_append]

end

end Node

namespace Visit

@[simp] theorem calls_nil : calls [] = 0 := rfl

theorem calls_cons (v : Visit) (vs : List Visit) : calls (v :: vs) = v.call?.toList + calls vs := by
  simp only [calls, List.filterMap_cons]
  cases h : v.call? <;> simp

@[simp] theorem calls_append (vs ws : List Visit) : calls (vs ++ ws) = calls vs + calls ws := by
  simp [calls, ← Multiset.coe_add]

end Visit

open Node (ofExprs ofStmts)

/-- Below an expression each call is visited once. -/
theorem Expr.calls_visits (place : Place) (e : Expr) :
    Visit.calls (e.visits place) = Node.calls [.expr e] := by
  have hplaced : ∀ cs : List (Place × Expr), (∀ c ∈ cs, c ∈ e.placed place) →
      Visit.calls (cs.flatMap fun c => c.2.visits c.1) =
        Node.calls (ofExprs (cs.map Prod.snd)) := by
    intro cs hcs
    induction cs with
    | nil => simp [ofExprs]
    | cons c cs ih =>
      have hc : sizeOf c.2 < sizeOf e := Expr.sizeOf_placed (hcs c List.mem_cons_self)
      rw [List.flatMap_cons, Visit.calls_append, Expr.calls_visits c.1 c.2,
        ih fun d hd => hcs d (List.mem_cons_of_mem c hd), List.map_cons, Node.calls_ofExprs_cons]
  rw [Expr.visits_eq, Visit.calls_cons, hplaced _ fun _ h => h, Expr.map_snd_placed,
    Node.calls_singleton]
  rfl
termination_by sizeOf e

theorem Expr.calls_list (place : Place) (es : List Expr) :
    Visit.calls (es.flatMap (Expr.visits place)) = Node.calls (ofExprs es) := by
  induction es with
  | nil => simp [ofExprs]
  | cons e es ih =>
    rw [List.flatMap_cons, Visit.calls_append, e.calls_visits, ih, Node.calls_ofExprs_cons]

/-- A statement that is a call stands for the call. -/
theorem Simple.calls_visits (place : Place) (sp : Span) (x : Simple) :
    Visit.calls ((Stmt.simple sp x).ownVisits place) = Node.calls (ofExprs x.exprs) := by
  rw [Stmt.ownVisits, Visit.calls_cons, Expr.calls_list]
  unfold Stmt.headExprs
  split
  · rename_i sp' p f as ks heq
    cases heq
    rw [Simple.exprs, Node.calls_ofExprs_cons, Node.calls_singleton]
    simp [Visit.call?, Node.children, Expr.children, ofExprs]
  · rename_i sp' x' hx heq
    cases heq
    have hnone : Visit.call? ⟨place, .stmt (.simple sp x)⟩ = none := by
      cases x with
      | expr e =>
        cases e with
        | call p f as ks => exact absurd rfl (hx _ _ _ _)
        | _ => rfl
      | _ => rfl
    simp [hnone]
  all_goals contradiction

/-- What a handler holds beside its statements. -/
def Handler.exprs : Handler Empty → List Expr
  | .mk _ t _ _ => t.toList

/-- What a case holds beside its statements. -/
def Case.exprs : Case Empty → List Expr
  | .mk p g _ => p.allExprs ++ g.toList

theorem Stmt.calls_compound (place : Place) {s : Stmt Empty} (h : ∀ sp x, s ≠ .simple sp x) :
    Visit.calls (s.ownVisits place) = Node.calls (ofExprs s.headExprs) := by
  have hnone : Visit.call? ⟨place, .stmt s⟩ = none := by
    cases s with
    | simple sp x => exact absurd rfl (h sp x)
    | _ => rfl
  rw [Stmt.ownVisits, Visit.calls_cons, Expr.calls_list, hnone]
  simp

mutual

theorem Stmt.calls_visits (place : Place) : ∀ s : Stmt Empty,
    Visit.calls (s.visits place) = Node.calls [.stmt s]
  | .simple sp x => by
    rw [Stmt.visits, List.append_nil, Simple.calls_visits, Node.calls_stmt, Node.ofStmt]
  | .hole _ h => nomatch h
  | .branch sp t b o => by
    rw [Stmt.visits, Visit.calls_append, Stmt.calls_compound place (by simp), Visit.calls_append,
      Stmt.calls_allVisits place b, Stmt.calls_allVisits place o, Node.calls_stmt, Node.ofStmt,
      Node.calls_append, Node.calls_cons (.expr t) (ofStmts b)]
    simp [Stmt.headExprs, ofExprs, add_assoc]
  | .loop sp hd b o => by
    rw [Stmt.visits, Visit.calls_append, Stmt.calls_compound place (by simp), Visit.calls_append,
      Stmt.calls_allVisits place b, Stmt.calls_allVisits place o, Node.calls_stmt, Node.ofStmt]
    simp [Stmt.headExprs]
  | .function sp hd b => by
    rw [Stmt.visits, Visit.calls_append, Stmt.calls_compound place (by simp),
      Stmt.calls_allVisits _ b, Node.calls_stmt, Node.ofStmt]
    simp [Stmt.headExprs]
  | .klass sp hd b => by
    rw [Stmt.visits, Visit.calls_append, Stmt.calls_compound place (by simp),
      Stmt.calls_allVisits _ b, Node.calls_stmt, Node.ofStmt]
    simp [Stmt.headExprs]
  | .withItems sp a is b => by
    rw [Stmt.visits, Visit.calls_append, Stmt.calls_compound place (by simp),
      Stmt.calls_allVisits _ b, Node.calls_stmt, Node.ofStmt]
    simp [Stmt.headExprs]
  | .attempt sp star b hs o f => by
    have hhs : Node.calls (ofExprs (Stmt.attempt sp star b hs o f).headExprs) +
        Visit.calls (Handler.visits place hs) = Node.calls (hs.map .handler) :=
      Handler.calls_visits place hs
    rw [Stmt.visits, Visit.calls_append, Stmt.calls_compound place (by simp), Node.calls_stmt,
      Node.ofStmt]
    simp only [Visit.calls_append, Node.calls_append, ← hhs, Stmt.calls_allVisits place b,
      Stmt.calls_allVisits place o, Stmt.calls_allVisits place f]
    ac_rfl
  | .select sp e cs => by
    have hcs : Node.calls (ofExprs (cs.flatMap Case.exprs)) + Visit.calls (Case.visits place cs) =
        Node.calls (cs.map .case) := Case.calls_visits place cs
    have hhead : (Stmt.select sp e cs).headExprs = e :: cs.flatMap Case.exprs := rfl
    rw [Stmt.visits, Visit.calls_append, Stmt.calls_compound place (by simp), Node.calls_stmt,
      Node.ofStmt, hhead, Node.calls_ofExprs_cons, add_assoc, hcs,
      Node.calls_cons (.expr e) (cs.map .case)]

theorem Stmt.calls_allVisits (place : Place) : ∀ ss : List (Stmt Empty),
    Visit.calls (Stmt.allVisits place ss) = Node.calls (ofStmts ss)
  | [] => by simp [Stmt.allVisits, ofStmts]
  | s :: ss => by
    rw [Stmt.allVisits, Visit.calls_append, Stmt.calls_visits place s,
      Stmt.calls_allVisits place ss, Node.calls_ofStmts_cons]

theorem Handler.calls_visits (place : Place) : ∀ hs : List (Handler Empty),
    Node.calls (ofExprs (hs.flatMap Handler.exprs)) + Visit.calls (Handler.visits place hs) =
      Node.calls (hs.map .handler)
  | [] => by simp [Handler.visits, ofExprs]
  | .mk p t n b :: hs => by
    rw [List.flatMap_cons, Node.calls_ofExprs_append, Handler.visits, Visit.calls_append,
      Stmt.calls_allVisits place b, List.map_cons, Node.calls_cons, ← Handler.calls_visits place hs,
      Node.calls_singleton]
    rw [Node.children, Node.calls_append, Handler.exprs]
    simp only [Node.call?, Option.toList_none, Multiset.coe_nil, zero_add]
    ac_rfl

theorem Case.calls_visits (place : Place) : ∀ cs : List (Case Empty),
    Node.calls (ofExprs (cs.flatMap Case.exprs)) + Visit.calls (Case.visits place cs) =
      Node.calls (cs.map .case)
  | [] => by simp [Case.visits, ofExprs]
  | .mk p g b :: cs => by
    rw [List.flatMap_cons, Node.calls_ofExprs_append, Case.visits, Visit.calls_append,
      Stmt.calls_allVisits place b, List.map_cons, Node.calls_cons, ← Case.calls_visits place cs,
      Node.calls_singleton]
    rw [Node.children, Node.calls_append, Node.calls_cons (.pattern p) (ofExprs g.toList),
      Node.calls_pattern, Case.exprs, Node.calls_ofExprs_append]
    simp only [Node.call?, Option.toList_none, Multiset.coe_nil, zero_add]
    ac_rfl

end

/-- No call of a module is left out, and none is visited twice. -/
theorem Module.calls_visits (m : Module Empty) :
    Visit.calls m.visits = Node.calls (ofStmts m.body) :=
  Stmt.calls_allVisits [.module m.body] m.body

end JumpMacros
