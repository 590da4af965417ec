import JumpMacros.Tree.Stmt

/-!
# Nodes of a tree

A `Node` is any statement, expression, pattern, handler or case. `Node.children` lists what is
directly under a node, in source order, and is the one place that knows how trees nest: walks
over a tree are folds over it. `Node.walk` is the pre-order walk that does not go below the nodes
a predicate stops at.
-/

namespace JumpMacros

variable {Hole : Type}

inductive Node (Hole : Type) where
  | stmt (s : Stmt Hole)
  | expr (e : Expr)
  | pattern (p : Pattern)
  | handler (h : Handler Hole)
  | case (c : Case Hole)

namespace Node

def ofStmts (ss : List (Stmt Hole)) : List (Node Hole) := ss.map .stmt

def ofExprs (es : List Expr) : List (Node Hole) := es.map .expr

/-- The nodes directly under a statement. -/
def ofStmt [HasExprs Hole] : Stmt Hole → List (Node Hole)
  | .simple _ s => ofExprs s.exprs
  | .hole _ h => ofExprs (HasExprs.exprs h)
  | .branch _ t b o => .expr t :: ofStmts b ++ ofStmts o
  | .loop _ h b o => ofExprs h.exprs ++ ofStmts b ++ ofStmts o
  | .function _ h b => ofExprs h.exprs ++ ofStmts b
  | .klass _ h b => ofExprs h.exprs ++ ofStmts b
  | .withItems _ _ is b => ofExprs (is.flatMap WithItem.exprs) ++ ofStmts b
  | .attempt _ _ b hs o f => ofStmts b ++ hs.map .handler ++ ofStmts o ++ ofStmts f
  | .select _ e cs => .expr e :: cs.map .case

/-- The nodes directly under a node, in source order, but for the test of a conditional expression,
which comes first. -/
def children [HasExprs Hole] : Node Hole → List (Node Hole)
  | .stmt s => ofStmt s
  | .expr e => ofExprs e.children
  | .pattern p => ofExprs p.exprs ++ p.children.map .pattern
  | .handler (.mk _ t _ b) => ofExprs t.toList ++ ofStmts b
  | .case (.mk p g b) => .pattern p :: ofExprs g.toList ++ ofStmts b

/-! ## Weight

The weight of a tree is its number of nodes. `weight_eq` says that a node weighs one more than
its children, which is why a walk that replaces a node by its children comes to an end. -/

mutual

/-- The number of nodes of an expression, and likewise below for what expressions are made of. -/
def exprWeight : Expr → Nat
  | .name _ _ _ | .const _ _ => 1
  | .fstring _ ps => 1 + pieceWeights ps
  | .attr _ v _ | .starred _ v | .unary _ _ v | .await _ v | .yieldFrom _ v => 1 + exprWeight v
  | .subscript _ a b | .binary _ _ a b | .named _ a b => 1 + exprWeight a + exprWeight b
  | .call _ f as ks => 1 + exprWeight f + exprWeights as + keywordWeights ks
  | .boolean _ _ es | .display _ _ es => 1 + exprWeights es
  | .compare _ l cs => 1 + exprWeight l + comparandWeights cs
  | .conditional _ a b c => 1 + exprWeight a + exprWeight b + exprWeight c
  | .lambda _ ps b => 1 + paramsWeight ps + exprWeight b
  | .dict _ es => 1 + entryWeights es
  | .comprehension _ _ e cs => 1 + exprWeight e + clauseWeights cs
  | .dictComprehension _ k v cs => 1 + exprWeight k + exprWeight v + clauseWeights cs
  | .yield _ v => 1 + optionWeight v
  | .slice _ a b c => 1 + optionWeight a + optionWeight b + optionWeight c

def exprWeights : List Expr → Nat
  | [] => 0
  | e :: es => exprWeight e + exprWeights es

def optionWeight : Option Expr → Nat
  | none => 0
  | some e => exprWeight e

def keywordWeights : List Keyword → Nat
  | [] => 0
  | .mk _ _ v :: ks => exprWeight v + keywordWeights ks

def comparandWeights : List Comparand → Nat
  | [] => 0
  | .mk _ v :: ks => exprWeight v + comparandWeights ks

def paramWeight : Param → Nat
  | .mk _ _ n d => optionWeight n + optionWeight d

def paramWeights : List Param → Nat
  | [] => 0
  | p :: ps => paramWeight p + paramWeights ps

def paramOptionWeight : Option Param → Nat
  | none => 0
  | some p => paramWeight p

def paramsWeight : Params → Nat
  | .mk po ps r ko kr =>
    paramWeights po + paramWeights ps + paramOptionWeight r + paramWeights ko +
      paramOptionWeight kr

def entryWeights : List Entry → Nat
  | [] => 0
  | .pair k v :: es => exprWeight k + exprWeight v + entryWeights es
  | .spread v :: es => exprWeight v + entryWeights es

def clauseWeights : List Clause → Nat
  | [] => 0
  | .mk _ t i cs :: gs => exprWeight t + exprWeight i + exprWeights cs + clauseWeights gs

def formatWeight : Option (List Piece) → Nat
  | none => 0
  | some ps => pieceWeights ps

def pieceWeights : List Piece → Nat
  | [] => 0
  | .text _ :: ps => pieceWeights ps
  | .field v _ f :: ps => exprWeight v + formatWeight f + pieceWeights ps

end

mutual

def patternWeight : Pattern → Nat
  | .value _ e => 1 + exprWeight e
  | .singleton _ _ | .star _ _ | .capture _ _ => 1
  | .sequence _ ps | .alternatives _ ps => 1 + patternWeights ps
  | .mapping _ ks ps _ => 1 + exprWeights ks + patternWeights ps
  | .klass _ c ps _ qs => 1 + exprWeight c + patternWeights ps + patternWeights qs
  | .named _ p _ => 1 + patternWeight p

def patternWeights : List Pattern → Nat
  | [] => 0
  | p :: ps => patternWeight p + patternWeights ps

end

mutual

def stmtWeight [HasExprs Hole] : Stmt Hole → Nat
  | .simple _ s => 1 + exprWeights s.exprs
  | .hole _ h => 1 + exprWeights (HasExprs.exprs h)
  | .branch _ t b o => 1 + exprWeight t + stmtWeights b + stmtWeights o
  | .loop _ h b o => 1 + exprWeights h.exprs + stmtWeights b + stmtWeights o
  | .function _ h b => 1 + exprWeights h.exprs + stmtWeights b
  | .klass _ h b => 1 + exprWeights h.exprs + stmtWeights b
  | .withItems _ _ is b => 1 + exprWeights (is.flatMap WithItem.exprs) + stmtWeights b
  | .attempt _ _ b hs o f =>
    1 + stmtWeights b + handlerWeights hs + stmtWeights o + stmtWeights f
  | .select _ e cs => 1 + exprWeight e + caseWeights cs

def stmtWeights [HasExprs Hole] : List (Stmt Hole) → Nat
  | [] => 0
  | s :: ss => stmtWeight s + stmtWeights ss

def handlerWeight [HasExprs Hole] : Handler Hole → Nat
  | .mk _ t _ b => 1 + optionWeight t + stmtWeights b

def handlerWeights [HasExprs Hole] : List (Handler Hole) → Nat
  | [] => 0
  | h :: hs => handlerWeight h + handlerWeights hs

def caseWeight [HasExprs Hole] : Case Hole → Nat
  | .mk p g b => 1 + patternWeight p + optionWeight g + stmtWeights b

def caseWeights [HasExprs Hole] : List (Case Hole) → Nat
  | [] => 0
  | c :: cs => caseWeight c + caseWeights cs

end

/-- The number of nodes of a tree. -/
def weight [HasExprs Hole] : Node Hole → Nat
  | .stmt s => stmtWeight s
  | .expr e => exprWeight e
  | .pattern p => patternWeight p
  | .handler h => handlerWeight h
  | .case c => caseWeight c

/-- The number of nodes of a list of trees. -/
def weights [HasExprs Hole] : List (Node Hole) → Nat
  | [] => 0
  | n :: ns => weight n + weights ns

section Lemmas

attribute [local simp] exprWeight exprWeights optionWeight keywordWeights comparandWeights
  paramWeight paramWeights paramOptionWeight paramsWeight entryWeights clauseWeights formatWeight
  pieceWeights patternWeight patternWeights stmtWeight stmtWeights handlerWeight handlerWeights
  caseWeight caseWeights weight

variable [HasExprs Hole]

@[simp] theorem weights_nil : weights ([] : List (Node Hole)) = 0 := rfl

@[simp] theorem weights_cons (n : Node Hole) (ns : List (Node Hole)) :
    weights (n :: ns) = weight n + weights ns := rfl

@[simp] theorem weights_append (ns ms : List (Node Hole)) :
    weights (ns ++ ms) = weights ns + weights ms := by
  induction ns with
  | nil => simp
  | cons n ns ih => simp [ih, Nat.add_assoc]

@[simp] theorem exprWeights_append (es fs : List Expr) :
    exprWeights (es ++ fs) = exprWeights es + exprWeights fs := by
  induction es with
  | nil => simp
  | cons e es ih => simp [ih, Nat.add_assoc]

@[simp] theorem exprWeights_toList (o : Option Expr) : exprWeights o.toList = optionWeight o := by
  cases o <;> simp

@[simp] theorem weights_ofExprs (es : List Expr) :
    weights (ofExprs es : List (Node Hole)) = exprWeights es := by
  induction es with
  | nil => rfl
  | cons e es ih => simp_all [ofExprs]

@[simp] theorem weights_ofStmts (ss : List (Stmt Hole)) :
    weights (ofStmts ss) = stmtWeights ss := by
  induction ss with
  | nil => simp [ofStmts]
  | cons s ss ih => simp_all [ofStmts]

@[simp] theorem weights_patterns (ps : List Pattern) :
    weights (ps.map .pattern : List (Node Hole)) = patternWeights ps := by
  induction ps with
  | nil => simp
  | cons p ps ih => simp_all

@[simp] theorem patternWeights_append (ps qs : List Pattern) :
    patternWeights (ps ++ qs) = patternWeights ps + patternWeights qs := by
  induction ps with
  | nil => simp
  | cons p ps ih => simp [ih, Nat.add_assoc]

@[simp] theorem weights_handlers (hs : List (Handler Hole)) :
    weights (hs.map .handler) = handlerWeights hs := by
  induction hs with
  | nil => simp
  | cons h hs ih => simp_all

@[simp] theorem weights_cases (cs : List (Case Hole)) :
    weights (cs.map .case) = caseWeights cs := by
  induction cs with
  | nil => simp
  | cons c cs ih => simp_all

@[simp] theorem exprWeights_keywords (ks : List Keyword) :
    exprWeights (ks.map Keyword.value) = keywordWeights ks := by
  induction ks with
  | nil => simp
  | cons k ks ih => obtain ⟨_, _, v⟩ := k; simp [Keyword.value, ih]

@[simp] theorem exprWeights_comparands (cs : List Comparand) :
    exprWeights (cs.map Comparand.operand) = comparandWeights cs := by
  induction cs with
  | nil => simp
  | cons c cs ih =>
    obtain ⟨_, v⟩ := c; simp [Comparand.operand, ih]

@[simp] theorem exprWeights_param (p : Param) : exprWeights p.exprs = paramWeight p := by
  obtain ⟨_, _, n, d⟩ := p
  simp [Param.exprs]

@[simp] theorem exprWeights_paramList (ps : List Param) :
    exprWeights (ps.flatMap Param.exprs) = paramWeights ps := by
  induction ps with
  | nil => simp
  | cons p ps ih => simp [ih]

@[simp] theorem paramWeights_toList (p : Option Param) :
    paramWeights p.toList = paramOptionWeight p := by
  cases p <;> simp

@[simp] theorem exprWeights_params (ps : Params) : exprWeights ps.exprs = paramsWeight ps := by
  obtain ⟨po, pl, r, ko, kr⟩ := ps
  simp [Params.exprs, Params.toList, Nat.add_assoc]

@[simp] theorem exprWeights_entries (es : List Entry) :
    exprWeights (es.flatMap Entry.exprs) = entryWeights es := by
  induction es with
  | nil => simp
  | cons e es ih => cases e <;> simp [Entry.exprs, ih, Nat.add_assoc]

@[simp] theorem exprWeights_clauses (cs : List Clause) :
    exprWeights (cs.flatMap Clause.exprs) = clauseWeights cs := by
  induction cs with
  | nil => simp
  | cons c cs ih =>
    obtain ⟨_, t, i, gs⟩ := c
    simp [Clause.exprs, ih, Nat.add_assoc]

mutual

theorem exprWeights_piece (p : Piece) : exprWeights p.exprs = pieceWeights [p] := by
  match p with
  | .text _ => simp [Piece.exprs]
  | .field v _ none => simp [Piece.exprs]
  | .field v _ (some ps) =>
    simp [Piece.exprs, exprWeights_pieces ps]

theorem exprWeights_pieces (ps : List Piece) :
    exprWeights (Piece.listExprs ps) = pieceWeights ps := by
  match ps with
  | [] => simp [Piece.listExprs]
  | p :: ps =>
    have hp := exprWeights_piece p
    have hps := exprWeights_pieces ps
    cases p <;> simp_all [Piece.listExprs]

end

theorem exprWeight_eq (e : Expr) : exprWeight e = 1 + exprWeights e.children := by
  cases e <;>
    simp [Expr.children, exprWeights_pieces, Nat.add_assoc]

theorem patternWeight_eq (p : Pattern) :
    patternWeight p = 1 + exprWeights p.exprs + patternWeights p.children := by
  cases p <;>
    simp [Pattern.exprs, Pattern.children, Nat.add_assoc]

/-- A node weighs one more than its children together. -/
theorem weight_eq (n : Node Hole) : n.weight = 1 + weights n.children := by
  cases n with
  | stmt s => cases s <;> simp [children, ofStmt, Nat.add_assoc]
  | expr e => simp [children, exprWeight_eq e]
  | pattern p => simp [children, patternWeight_eq p, Nat.add_assoc]
  | handler h => obtain ⟨_, t, _, b⟩ := h; simp [children, Nat.add_assoc]
  | case c => obtain ⟨p, g, b⟩ := c; simp [children, Nat.add_assoc]

end Lemmas

/-! ## The pre-order walk -/

/-- The nodes of a list of trees, parents before children and in source order. The walk goes on
below a node only if `enter` allows it; a node it does not enter is listed itself. The list of
nodes still to be visited is a stack: the children of a node are put before what was waiting. -/
def walk [HasExprs Hole] (enter : Node Hole → Bool) : List (Node Hole) → List (Node Hole)
  | [] => []
  | n :: rest => n :: walk enter (if enter n then n.children ++ rest else rest)
termination_by todo => weights todo
decreasing_by
  have := weight_eq n
  split <;> simp <;> omega

/-- All nodes of a list of trees. -/
def all [HasExprs Hole] (ns : List (Node Hole)) : List (Node Hole) := walk (fun _ => true) ns

/-- Whether what is below a node has a scope of its own: functions, classes, lambdas and
comprehensions. -/
def opensScope : Node Hole → Bool
  | .stmt (.function _ _ _) | .stmt (.klass _ _ _) => true
  | .expr (.lambda _ _ _) | .expr (.comprehension _ _ _ _)
  | .expr (.dictComprehension _ _ _ _) => true
  | _ => false

/-- The nodes of one scope; a nested scope is listed but not entered. -/
def scopeNodes [HasExprs Hole] (body : List (Stmt Hole)) : List (Node Hole) :=
  walk (fun n => !n.opensScope) (ofStmts body)

end Node

end JumpMacros
