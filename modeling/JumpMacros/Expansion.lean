import JumpMacros.Scope

/-!
# Expansion

Every call statement whose callee denotes a macro in its scope is an invocation and is replaced
by what its rule gives; every other resolved call is misplaced. `Stmt.gather` visits the
statements of a module in source order, each with the names visible there; invocations, misplaced
calls and the expanded tree all follow that one rule of scopes.
-/

namespace JumpMacros

/-- The names visible at a place: those of the scope itself, and those that functions nested in
it see. The two differ in a class body, whose names are not visible in nested functions. -/
structure Env where
  here : Table
  inner : Table

namespace Env

def ofTable (t : Table) : Env := ⟨t, t⟩

/-- The body of a function. -/
def enterFunction (package : String) (env : Env) (h : FunctionHead) (body : List (Stmt Empty)) :
    Env :=
  .ofTable (scopeTable package body env.inner h.params.names)

/-- The body of a class. -/
def enterClass (package : String) (env : Env) (body : List (Stmt Empty)) : Env :=
  ⟨scopeTable package body env.inner [], env.inner⟩

/-- The body of a lambda. -/
def enterLambda (env : Env) (ps : Params) : Env := .ofTable (env.inner.without ps.names)

/-- The macro a callee denotes. -/
def resolve (env : Env) (spelling : Option String) : Option String :=
  spelling.bind fun s => env.here.lookup s

end Env

/-- The dotted name an expression spells. -/
def Expr.dotted : Expr → Option String
  | .name _ id _ => some id
  | .attr _ v a => v.dotted.map fun s => s ++ "." ++ a
  | _ => none

/-- The macro that a call denotes. -/
def Expr.macroName (env : Env) : Expr → Option String
  | .call _ f _ _ => env.resolve f.dotted
  | _ => none

/-! ## Invocations and misplaced calls -/

/-- The invocation that a statement is. -/
def Stmt.invocation? (env : Env) : Stmt Empty → Option Invocation
  | .simple sp (.expr (.call _ f as ks)) =>
    (env.resolve f.dotted).map fun m => ⟨m, as, ks, some sp⟩
  | _ => none

/-- A resolved call in an expression, and where it is. -/
structure MisplacedCall where
  name : String
  pos : Position
deriving DecidableEq, Repr

/-- The resolved calls in an expression. A lambda's body sees what is visible in nested scopes,
without its parameters. -/
def Expr.misplaced (env : Env) (e : Expr) : List MisplacedCall :=
  let own := match e with
    | .call p f _ _ => (env.resolve f.dotted).toList.map fun m => ⟨m, p⟩
    | _ => []
  match e with
  | .lambda _ ps b =>
    ps.exprs.attach.flatMap (fun ⟨x, _⟩ => x.misplaced env) ++ b.misplaced (env.enterLambda ps)
  | e => own ++ e.children.attach.flatMap (fun ⟨x, _⟩ => x.misplaced env)
termination_by sizeOf e
decreasing_by
  · have := Params.sizeOf_lt ‹_›
    simp; omega
  · simp only [Expr.lambda.sizeOf_spec]; omega
  · exact Expr.sizeOf_lt ‹_›

/-- The expressions that belong to a statement itself, those of its handlers and cases
included. The callee of an invocation is not among them. -/
def Stmt.ownExprs (env : Env) : Stmt Empty → List Expr
  | .simple sp s =>
    match (Stmt.simple sp s).invocation? env with
    | some i => i.args ++ i.keywords.map Keyword.value
    | none => s.exprs
  | .hole _ h => nomatch h
  | .branch _ t _ _ => [t]
  | .loop _ h _ _ => h.exprs
  | .function _ h _ => h.exprs
  | .klass _ h _ => h.exprs
  | .withItems _ _ is _ => is.flatMap WithItem.exprs
  | .attempt _ _ _ hs _ _ => hs.flatMap fun
    | .mk _ t _ _ => t.toList
  | .select _ e cs => e :: cs.flatMap fun
    | .mk p g _ => p.allExprs ++ g.toList

mutual

/-- Collects what each statement contributes, with the names visible at it, in source order. -/
def Stmt.gather {α : Type} (package : String) (own : Env → Stmt Empty → List α) (env : Env)
    (s : Stmt Empty) : List α :=
  own env s ++
    match s with
    | .simple _ _ => []
    | .hole _ h => nomatch h
    | .branch _ _ b o => Stmt.gatherAll package own env b ++ Stmt.gatherAll package own env o
    | .loop _ _ b o => Stmt.gatherAll package own env b ++ Stmt.gatherAll package own env o
    | .function _ h b => Stmt.gatherAll package own (env.enterFunction package h b) b
    | .klass _ _ b => Stmt.gatherAll package own (env.enterClass package b) b
    | .withItems _ _ _ b => Stmt.gatherAll package own env b
    | .attempt _ _ b hs o f =>
      Stmt.gatherAll package own env b ++ Handler.gatherAll package own env hs ++
        Stmt.gatherAll package own env o ++ Stmt.gatherAll package own env f
    | .select _ _ cs => Case.gatherAll package own env cs

def Stmt.gatherAll {α : Type} (package : String) (own : Env → Stmt Empty → List α) (env : Env) :
    List (Stmt Empty) → List α
  | [] => []
  | s :: ss => s.gather package own env ++ Stmt.gatherAll package own env ss

def Handler.gatherAll {α : Type} (package : String) (own : Env → Stmt Empty → List α) (env : Env) :
    List (Handler Empty) → List α
  | [] => []
  | .mk _ _ _ b :: hs =>
    Stmt.gatherAll package own env b ++ Handler.gatherAll package own env hs

def Case.gatherAll {α : Type} (package : String) (own : Env → Stmt Empty → List α) (env : Env) :
    List (Case Empty) → List α
  | [] => []
  | .mk _ _ b :: cs => Stmt.gatherAll package own env b ++ Case.gatherAll package own env cs

end

/-- The invocations of a list of statements, in source order. -/
def invocations (package : String) (env : Env) (body : List (Stmt Empty)) : List Invocation :=
  Stmt.gatherAll package (fun env s => (s.invocation? env).toList) env body

/-- The misplaced calls of a list of statements. -/
def misplacedCalls (package : String) (env : Env) (body : List (Stmt Empty)) :
    List MisplacedCall :=
  Stmt.gatherAll package (fun env s => (s.ownExprs env).flatMap (Expr.misplaced env)) env body

/-! ## The expanded tree -/

/-- What a simple statement becomes: an invocation that fits a rule is replaced. -/
def Simple.expand (env : Env) (sp : Span) (s : Simple) : Stmt Placeholder :=
  match (Stmt.simple sp s).invocation? env with
  | none => .simple sp s
  | some i =>
    match (Macro.ofName? i.name).map fun m => i.replacement m with
    | some (.ok (r, _)) => r.toStmt sp
    | _ => .simple sp s

mutual

/-- A statement with its invocations replaced. -/
def Stmt.expand (package : String) (env : Env) : Stmt Empty → Stmt Placeholder
  | .simple sp s => s.expand env sp
  | .hole _ h => nomatch h
  | .branch sp t b o =>
    .branch sp t (Stmt.expandAll package env b) (Stmt.expandAll package env o)
  | .loop sp h b o => .loop sp h (Stmt.expandAll package env b) (Stmt.expandAll package env o)
  | .function sp h b =>
    .function sp h (Stmt.expandAll package (env.enterFunction package h b) b)
  | .klass sp h b => .klass sp h (Stmt.expandAll package (env.enterClass package b) b)
  | .withItems sp a is b => .withItems sp a is (Stmt.expandAll package env b)
  | .attempt sp star b hs o f =>
    .attempt sp star (Stmt.expandAll package env b) (Handler.expandAll package env hs)
      (Stmt.expandAll package env o) (Stmt.expandAll package env f)
  | .select sp e cs => .select sp e (Case.expandAll package env cs)

def Stmt.expandAll (package : String) (env : Env) :
    List (Stmt Empty) → List (Stmt Placeholder)
  | [] => []
  | s :: ss => s.expand package env :: Stmt.expandAll package env ss

def Handler.expandAll (package : String) (env : Env) :
    List (Handler Empty) → List (Handler Placeholder)
  | [] => []
  | .mk p t n b :: hs =>
    .mk p t n (Stmt.expandAll package env b) :: Handler.expandAll package env hs

def Case.expandAll (package : String) (env : Env) : List (Case Empty) → List (Case Placeholder)
  | [] => []
  | .mk p g b :: cs => .mk p g (Stmt.expandAll package env b) :: Case.expandAll package env cs

end

/-! ## Records -/

/-- A successful expansion: the macro, the shape of the call, and where it was. -/
structure Record where
  name : String
  shape : String
  line : Option Nat
  col : Option Nat
deriving DecidableEq, Repr

/-- What comes of an invocation: a record, a diagnostic, or nothing because no macro has the
name that the settings gave. -/
inductive Verdict where
  | expanded (r : Record)
  | refused (d : Diagnostic)
  | unknown (name : String)

def Invocation.verdict (file : Option String) (i : Invocation) : Verdict :=
  match Macro.ofName? i.name with
  | none => .unknown i.name
  | some m =>
    match i.replacement m with
    | .ok (_, r) => .expanded ⟨i.name, r.describe, i.line, i.col⟩
    | .error p => .refused (i.mismatch m file p)

namespace Verdict

def record? : Verdict → Option Record
  | .expanded r => some r
  | _ => none

def diagnostic? : Verdict → Option Diagnostic
  | .refused d => some d
  | _ => none

def unknown? : Verdict → Option String
  | .unknown n => some n
  | _ => none

end Verdict

def MisplacedCall.diagnostic (file : Option String) (c : MisplacedCall) : Diagnostic :=
  .located (.misplacedCall c.name) file c.pos

end JumpMacros
