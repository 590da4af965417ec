import JumpMacros.Compile.Future
import JumpMacros.Compile.Suspension
import JumpMacros.Tree.Names

/-!
# Symbols

Before code is generated, the names of a module are collected scope by scope, in the order in
which the tree is visited, and then every name is resolved. Collecting refuses declarations that
come too late and assignments inside of expressions that have no scope to go to; resolving
refuses names that are declared to belong to a function around when there is none that binds
them. Only what is refused is kept here, not how names are resolved.

A definition's name comes before its head, and the bodies of functions are collected when they
are reached. The `else` part of a `try` comes before its handlers.
-/

namespace JumpMacros

/-- A way in which a name occurs. -/
inductive Mention where
  | use
  | assign
  | param
  | imported
  | note
  | declared (d : Declaration)
deriving DecidableEq, Repr

/-- How a name has occurred in a scope. `isIterated` tells that a comprehension iterates with
it. -/
structure Mentions where
  isUsed : Bool
  isAssigned : Bool
  isParam : Bool
  isImported : Bool
  isNoted : Bool
  isGlobal : Bool
  isOuter : Bool
  isIterated : Bool
deriving DecidableEq, Repr

namespace Mentions

def none : Mentions := ⟨false, false, false, false, false, false, false, false⟩

def add (m : Mentions) : Mention → Mentions
  | .use => { m with isUsed := true }
  | .assign => { m with isAssigned := true }
  | .param => { m with isParam := true }
  | .imported => { m with isImported := true }
  | .note => { m with isNoted := true, isAssigned := true }
  | .declared .global => { m with isGlobal := true }
  | .declared .outer => { m with isOuter := true }

/-- Whether the name is bound in the scope unless it is declared. -/
def isBound (m : Mentions) : Bool := m.isAssigned || m.isParam || m.isImported

end Mentions

/-- What a scope belongs to. `note` is an annotation that is kept as a text. -/
inductive SymbolScope where
  | module
  | klass
  | function
  | comprehension (form : ComprehensionForm)
  | note
deriving DecidableEq, Repr

/-- Whether a scope is that of code that can be called. -/
def SymbolScope.isFunction : SymbolScope → Bool
  | .function | .comprehension _ => true
  | _ => false

/-- The names of a scope in the order of their first mention, the places of declarations, the
scopes in it, and where collecting stands: in how many iterables of comprehensions, and whether in
the target of one. -/
structure Symbols where
  scope : SymbolScope
  names : List (String × Mentions)
  declared : List (String × Position)
  inner : List Symbols
  iterables : Nat
  inTarget : Bool

namespace Symbols

def empty (scope : SymbolScope) (iterables : Nat) : Symbols :=
  ⟨scope, [], [], [], iterables, false⟩

/-- How a name has occurred. -/
def mentions (s : Symbols) (name : String) : Mentions := (s.names.lookup name).getD .none

def put (name : String) (m : Mentions) : List (String × Mentions) → List (String × Mentions)
  | [] => [(name, m)]
  | (n, k) :: rest => if n == name then (n, m) :: rest else (n, k) :: put name m rest

/-- Adds a mention of a name, which is shown as it is written. -/
def mention (s : Symbols) (name written : String) (m : Mention) (place : Position) :
    Except Refused Symbols :=
  let before := s.mentions name
  let after := before.add m
  if m = .param && before.isParam then .error ⟨.duplicateParam written, some place⟩
  else if s.inTarget && (after.isGlobal || after.isOuter) then
    .error ⟨.namedInnerIteration written, some place⟩
  else
    .ok { s with names := put name { after with isIterated := after.isIterated || s.inTarget } s.names }

end Symbols

/-- The scopes that are open, the innermost first, the class whose private names are mentioned, and
whether annotations are kept as texts. -/
structure Collecting where
  current : Symbols
  around : List Symbols
  owner : Option String
  textNotes : Bool

abbrev Collector := StateT Collecting (Except Refused)

namespace Collector

def refuse {α : Type} (why : Refusal) (place : Position) : Collector α :=
  throw ⟨why, some place⟩

/-- The scope at hand. -/
def current : Collector Symbols := return (← get).current

/-- Adds a global name to the scope of the module, which is the outermost one. -/
def addGlobal (name : String) : List Symbols → List Symbols
  | [] => []
  | [s] =>
    [{ s with names := Symbols.put name ((s.mentions name).add (.declared .global)) s.names }]
  | s :: ss => s :: addGlobal name ss

/-- Mentions a name in the scope at hand. -/
def mention (name : String) (m : Mention) (place : Position) : Collector Unit := do
  let c ← get
  let id := mangled c.owner name
  let s ← c.current.mention id name m place
  let around := if m = .declared .global then addGlobal id c.around else c.around
  set { c with current := s, around }

/-- Notes where a name is declared. -/
def declare (name : String) (place : Position) : Collector Unit :=
  modify fun c =>
    let d := (mangled c.owner name, place)
    { c with current := { c.current with declared := c.current.declared ++ [d] } }

/-- Collects in a new scope. An annotation leaves nothing behind. -/
def within (scope : SymbolScope) (body : Collector Unit) : Collector Unit := do
  let c ← get
  set { c with current := .empty scope c.current.iterables, around := c.current :: c.around }
  body
  let d ← get
  match d.around with
  | [] => pure ()
  | outer :: around =>
    let outer := if scope = .note then outer else { outer with inner := outer.inner ++ [d.current] }
    set { d with current := outer, around }

/-- Collects what a comprehension iterates over. -/
def inIterable (body : Collector Unit) : Collector Unit := do
  let shift (f : Nat → Nat) : Collector Unit :=
    modify fun c => { c with current := { c.current with iterables := f c.current.iterables } }
  shift (· + 1)
  body
  shift (· - 1)

/-- Collects what a comprehension assigns to. -/
def inTarget (body : Collector Unit) : Collector Unit := do
  let turn (b : Bool) : Collector Unit :=
    modify fun c => { c with current := { c.current with inTarget := b } }
  turn true
  body
  turn false

/-! ## Assignments inside of expressions -/

/-- The scope that a name assigned inside of a comprehension goes to: how many scopes around the
one at hand. Comprehensions on the way must not iterate with the name. -/
def homeOf (name written : String) (place : Position) :
    Nat → List Symbols → Except Refused (Nat × Symbols)
  | k, s :: ss =>
    match s.scope with
    | .comprehension _ =>
      if (s.mentions name).isIterated then .error ⟨.namedIteration written, some place⟩
      else homeOf name written place (k + 1) ss
    | .function | .module => .ok (k, s)
    | .klass => .error ⟨.namedInClass, some place⟩
    | .note => homeOf name written place (k + 1) ss
  | k, [] => .ok (k, .empty .module 0)

/-- Takes up a name that is assigned inside of a comprehension: it belongs to the function or
module around. -/
def assignOutside (name : String) (place : Position) : Collector Unit := do
  let c ← get
  let id := mangled c.owner name
  let (k, home) ← homeOf id name place 0 (c.current :: c.around)
  let isModule := home.scope = .module
  let isGlobal := isModule || (home.mentions id).isGlobal
  mention name (.declared (if isGlobal then .global else .outer)) place
  declare name place
  if !isModule then
    let c ← get
    match c.around[k - 1]? with
    | some s =>
      let s ← s.mention id name .assign place
      set { c with around := c.around.set (k - 1) s }
    | none => pure ()

/-! ## Expressions -/

/-- Refuses something in an annotation that is kept as a text. -/
def refuseInNote (what : String) (place : Position) : Collector Unit := do
  if (← current).scope = .note then refuse (.inNote what) place

/-- What is refused behind an expression that yields. -/
def afterYield (place : Position) : Collector Unit := do
  match (← current).scope with
  | .comprehension f => refuse (.yieldInComprehension f) place
  | _ => pure ()

/-- Mentions the parameters of a function. -/
def params : Params → Collector Unit
  | .mk po ps r ko kr =>
    (po ++ ps ++ ko ++ r.toList ++ kr.toList).forM fun p => mention p.name .param p.pos

/-- Mentions a name that is read, assigned or deleted. The name `__debug__` is a literal where it
is read, and to mention `super` is to use the class. -/
def name (place : Position) (id : String) (use : NameUse) : Collector Unit := do
  if use = .load then
    if id != "__debug__" then mention id .use place
    if id == "super" && (← current).scope.isFunction then mention "__class__" .use place
  else mention id .assign place

mutual

/-- Collects the names of an expression. -/
def expr (e : Expr) : Collector Unit :=
  match e with
  | .name p id use => name p id use
  | .lambda _ ps b => do
    ps.exprs.attach.forM fun x =>
      have := Params.sizeOf_lt x.2
      expr x.1
    within .function do
      params ps
      expr b
  | .comprehension _ k el cs => comprehension k.form cs (expr el)
  | .dictComprehension _ k v cs =>
    comprehension .dict cs do
      expr v
      expr k
  | .named p t v => do
    refuseInNote "named expression" p
    let s ← current
    if s.iterables > 0 then refuse .namedIterable p
    match s.scope, t with
    | .comprehension _, .name q id _ => assignOutside id q
    | _, _ => pure ()
    expr v
    expr t
  | .yield p v => do
    refuseInNote "yield expression" p
    match v with
    | some v => expr v
    | none => pure ()
    afterYield p
  | .yieldFrom p v => do
    refuseInNote "yield expression" p
    expr v
    afterYield p
  | .await p v => do
    refuseInNote "await expression" p
    expr v
  | .dict _ es => do
    keys es
    values es
  | e => e.children.attach.forM fun x =>
    have := Expr.sizeOf_lt x.2
    expr x.1
termination_by sizeOf e

/-- Collects the names of a comprehension, those of its elements last. -/
def comprehension (form : ComprehensionForm) (cs : List Clause) (elements : Collector Unit) :
    Collector Unit :=
  match cs with
  | [] => pure ()
  | .mk _ t i conds :: rest => do
    inIterable (expr i)
    within (.comprehension form) do
      inTarget (expr t)
      exprs conds
      clauses rest
      elements
termination_by sizeOf cs

def clauses (cs : List Clause) : Collector Unit :=
  match cs with
  | [] => pure ()
  | .mk _ t i conds :: rest => do
    inTarget (expr t)
    inIterable (expr i)
    exprs conds
    clauses rest
termination_by sizeOf cs

def exprs (es : List Expr) : Collector Unit :=
  match es with
  | [] => pure ()
  | e :: es => do
    expr e
    exprs es
termination_by sizeOf es

/-- The keys of a dictionary display come before its values. -/
def keys (es : List Entry) : Collector Unit :=
  match es with
  | [] => pure ()
  | .pair k _ :: es => do
    expr k
    keys es
  | .spread _ :: es => keys es
termination_by sizeOf es

def values (es : List Entry) : Collector Unit :=
  match es with
  | [] => pure ()
  | .pair _ v :: es => do
    expr v
    values es
  | .spread v :: es => do
    expr v
    values es
termination_by sizeOf es

end

/-- Collects the names of an annotation. -/
def note (e : Expr) : Collector Unit := do
  if (← get).textNotes then within .note (expr e) else expr e

mutual

/-- Collects the names of a pattern: what it binds itself comes last. -/
def pattern : Pattern → Collector Unit
  | .value _ e => expr e
  | .singleton _ _ => pure ()
  | .sequence _ ps | .alternatives _ ps => patterns ps
  | .mapping p ks ps rest => do
    exprs ks
    patterns ps
    rest.toList.forM fun n => mention n .assign p
  | .klass _ c ps _ qs => do
    expr c
    patterns ps
    patterns qs
  | .star p n | .capture p n => n.toList.forM fun n => mention n .assign p
  | .named p q n => do
    pattern q
    mention n .assign p

def patterns : List Pattern → Collector Unit
  | [] => pure ()
  | p :: ps => do
    pattern p
    patterns ps

end

/-! ## Statements -/

/-- Collects a declaration of names. It must come before anything else about them. -/
def declaration (spot : Position) (d : Declaration) (names : List String) : Collector Unit :=
  names.forM fun n => do
    let c ← get
    let m := c.current.mentions (mangled c.owner n)
    if m.isParam then refuse (.declaredParam n d) spot
    if m.isUsed then refuse (.declaredAfterUse n d) spot
    if m.isNoted then refuse (.declaredNoted n d) spot
    if m.isAssigned then refuse (.declaredAfterAssignment n d) spot
    mention n (.declared d) spot
    declare n spot

/-- Collects an assignment with an annotation. A bare name that is declared to belong elsewhere has
none. -/
def annotated (spot : Position) (target e : Expr) (value : Option Expr) (bare : Bool) :
    Collector Unit := do
  match target with
  | .name p id _ =>
    let c ← get
    let m := c.current.mentions (mangled c.owner id)
    if bare && (m.isGlobal || m.isOuter) && c.current.scope ≠ .module then
      refuse (.declaredNoted id (if m.isGlobal then .global else .outer)) spot
    if bare then mention id .note p
    else if value.isSome then mention id .assign p
  | t => expr t
  note e
  exprs value.toList

/-- Collects an imported name: of a dotted one, only the first part is bound. -/
def imported (a : Alias) : Collector Unit := do
  if a.bound == "*" then
    if (← current).scope ≠ .module then refuse .starImport a.pos
  else mention (String.ofList (a.bound.toList.takeWhile (· != '.'))) .imported a.pos

def simple (spot : Position) : Simple → Collector Unit
  | .annotated t n v bare => annotated spot t n v bare
  | .globals ns => declaration spot .global ns
  | .nonlocals ns => declaration spot .outer ns
  | .imports as | .importsFrom _ as _ => as.forM imported
  | s => exprs s.exprs

/-- Collects the annotations of parameters. -/
def paramNotes : Params → Collector Unit
  | .mk po ps r ko kr =>
    exprs ((po ++ ps ++ r.toList ++ kr.toList ++ ko).flatMap (·.note.toList))

/-- Collects the head of a function definition. -/
def functionHead (spot : Position) (h : FunctionHead) : Collector Unit := do
  mention h.name .assign spot
  exprs (h.params.toList.flatMap (·.default.toList))
  if (← get).textNotes then within .note (paramNotes h.params) else paramNotes h.params
  h.returns.toList.forM note
  exprs h.decorators

/-- Collects the body of a class, whose private names are its own. -/
def inClass (name : String) (body : Collector Unit) : Collector Unit := do
  let owner := (← get).owner
  within .klass do
    modify fun c => { c with owner := some name }
    body
    modify fun c => { c with owner }

mutual

/-- Collects the names of a statement. -/
def stmt : Stmt Empty → Collector Unit
  | .simple sp s => simple sp.start s
  | .hole _ h => nomatch h
  | .branch _ t b o => do
    expr t
    block b
    block o
  | .loop _ h b o => do
    exprs h.exprs
    block b
    block o
  | .function sp h b => do
    functionHead sp.start h
    within .function do
      params h.params
      block b
  | .klass sp h b => do
    mention h.name .assign sp.start
    exprs (h.bases ++ h.keywords.map Keyword.value ++ h.decorators)
    inClass h.name (block b)
  | .withItems _ _ is b => do
    exprs (is.flatMap WithItem.exprs)
    block b
  | .attempt _ _ b hs o f => do
    block b
    block o
    handlers hs
    block f
  | .select _ e cs => do
    expr e
    cases cs

def block : List (Stmt Empty) → Collector Unit
  | [] => pure ()
  | s :: ss => do
    stmt s
    block ss

def handlers : List (Handler Empty) → Collector Unit
  | [] => pure ()
  | .mk p t n b :: hs => do
    exprs t.toList
    n.toList.forM fun n => mention n .assign p
    block b
    handlers hs

def cases : List (Case Empty) → Collector Unit
  | [] => pure ()
  | .mk p g b :: cs => do
    pattern p
    exprs g.toList
    block b
    cases cs

end

end Collector

/-! ## Resolution -/

namespace Symbols

/-- What is wrong with the declarations of a name, given the names that the functions around
bind. -/
def misdeclared (bound : Option (List String)) (declared : List (String × Position)) :
    String × Mentions → Option Refused
  | (n, m) =>
    let refused (why : Refusal) : Option Refused := some ⟨why, declared.lookup n⟩
    if m.isGlobal then
      if m.isOuter then refused (.declaredTwice n) else none
    else if m.isOuter then
      match bound with
      | none => refused .outerInModule
      | some ns => if ns.contains n then none else refused (.outerUnbound n)
    else none

/-- The names that the functions around the scopes in a scope bind. The names of a class are
invisible, but it binds `__class__`. -/
def boundInside (bound : List String) (scope : SymbolScope) (names : List (String × Mentions)) :
    List String :=
  match scope with
  | .klass => "__class__" :: bound
  | .function | .comprehension _ =>
    let own := names.filter fun (_, m) => m.isBound && !m.isGlobal && !m.isOuter
    let globals := names.filter fun (_, m) => m.isGlobal
    own.map (·.1) ++ bound.filter fun n => (globals.lookup n).isNone
  | .module | .note => bound

mutual

/-- The first name in a scope or in the scopes in it that cannot be resolved. -/
def unresolved (bound : Option (List String)) : Symbols → Option Refused
  | ⟨scope, names, declared, inner, _, _⟩ =>
    names.findSome? (misdeclared bound declared) <|>
      unresolvedIn (some (boundInside (bound.getD []) scope names)) inner

def unresolvedIn (bound : Option (List String)) : List Symbols → Option Refused
  | [] => none
  | s :: ss => unresolved bound s <|> unresolvedIn bound ss

end

end Symbols

/-- The first thing about the names of a module that is refused. -/
def Module.refusedSymbol (textNotes : Bool) (m : Module Empty) : Option Refused :=
  match (Collector.block m.body).run ⟨.empty .module 0, [], none, textNotes⟩ with
  | .error r => some r
  | .ok (_, c) => c.current.unresolved none

end JumpMacros
