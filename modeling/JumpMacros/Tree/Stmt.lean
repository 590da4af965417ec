import JumpMacros.Tree.Expr

/-!
# Statements

The statement trees of a Python module. A `Stmt Hole` may hold, where a statement is expected,
a placeholder of type `Hole`: `Stmt Empty` is a statement of the language itself, while expansion
leaves `Stmt Placeholder`, in which labelled jumps and loop labels still wait to be lowered. That
no placeholder survives lowering is thus part of its type.

Simple statements hold no statements and form a type of their own, `Simple`; the constructors of
`Stmt` are the compound ones.
-/

namespace JumpMacros

/-- The part of a source text that a statement covers. -/
structure Span where
  line : Nat
  col : Nat
  endLine : Nat
  endCol : Nat
deriving DecidableEq, Repr, Inhabited

def Span.start (s : Span) : Position := ⟨s.line, s.col⟩

/-- Where a module itself is. -/
def Span.ofModule : Span := ⟨1, 0, 1, 0⟩

/-- An imported name, and the name it is bound to if another. -/
structure Alias where
  pos : Position
  name : String
  asName : Option String
deriving DecidableEq, Repr

/-- The name an import binds before any split at full stops. -/
def Alias.bound (a : Alias) : String := a.asName.getD a.name

/-- The statements that hold no other statements. -/
inductive Simple where
  | expr (value : Expr)
  | assign (targets : List Expr) (value : Expr)
  | augmented (target : Expr) (op : BinaryOp) (value : Expr)
  | annotated (target note : Expr) (value : Option Expr) (bare : Bool)
  | deletes (targets : List Expr)
  | pass
  | breaks
  | continues
  | returns (value : Option Expr)
  | raises (exception cause : Option Expr)
  | asserts (test : Expr) (message : Option Expr)
  | globals (names : List String)
  | nonlocals (names : List String)
  | imports (names : List Alias)
  | importsFrom (module : Option String) (names : List Alias) (level : Nat)

instance : Inhabited Simple := ⟨.pass⟩

/-- The expressions directly under a simple statement. -/
def Simple.exprs : Simple → List Expr
  | .expr v => [v]
  | .assign ts v => ts ++ [v]
  | .augmented t _ v => [t, v]
  | .annotated t n v _ => t :: n :: v.toList
  | .deletes ts => ts
  | .returns v => v.toList
  | .raises e c => e.toList ++ c.toList
  | .asserts t m => t :: m.toList
  | _ => []

/-- What a loop runs over: the items of an iterable, or as long as a test holds. -/
inductive LoopHead where
  | over (isAsync : Bool) (target iter : Expr)
  | whilst (test : Expr)

def LoopHead.exprs : LoopHead → List Expr
  | .over _ t i => [t, i]
  | .whilst t => [t]

/-- A function definition without its body. `firstLine` is the line of its first decorator, or of
the definition itself. -/
structure FunctionHead where
  isAsync : Bool
  name : String
  params : Params
  decorators : List Expr
  returns : Option Expr
  firstLine : Nat

/-- The expressions of a definition that are evaluated in the enclosing scope. -/
def FunctionHead.exprs (f : FunctionHead) : List Expr :=
  f.decorators ++ f.params.exprs ++ f.returns.toList

/-- The same, if annotations may be kept as texts. Then they are not evaluated. -/
def FunctionHead.outerExprs (textNotes : Bool) (f : FunctionHead) : List Expr :=
  if textNotes then f.decorators ++ f.params.toList.flatMap (·.default.toList) else f.exprs

/-- A class definition without its body. -/
structure ClassHead where
  name : String
  bases : List Expr
  keywords : List Keyword
  decorators : List Expr

/-- The expressions of a class definition that are evaluated in the enclosing scope. -/
def ClassHead.exprs (c : ClassHead) : List Expr :=
  c.decorators ++ c.bases ++ c.keywords.map Keyword.value

/-- An item of a `with` statement: a context manager, and what its result is assigned to. -/
structure WithItem where
  manager : Expr
  target : Option Expr

def WithItem.exprs (w : WithItem) : List Expr := w.manager :: w.target.toList

mutual

inductive Stmt (Hole : Type) where
  | simple (span : Span) (s : Simple)
  | hole (span : Span) (h : Hole)
  | branch (span : Span) (test : Expr) (body orelse : List (Stmt Hole))
  | loop (span : Span) (head : LoopHead) (body orelse : List (Stmt Hole))
  | function (span : Span) (head : FunctionHead) (body : List (Stmt Hole))
  | klass (span : Span) (head : ClassHead) (body : List (Stmt Hole))
  | withItems (span : Span) (isAsync : Bool) (items : List WithItem) (body : List (Stmt Hole))
  | attempt (span : Span) (star : Bool) (body : List (Stmt Hole)) (handlers : List (Handler Hole))
      (orelse final : List (Stmt Hole))
  | select (span : Span) (subject : Expr) (cases : List (Case Hole))

/-- An exception handler. -/
inductive Handler (Hole : Type) where
  | mk (pos : Position) (type : Option Expr) (name : Option String) (body : List (Stmt Hole))

/-- A case of a `match` statement. -/
inductive Case (Hole : Type) where
  | mk (pattern : Pattern) (guard : Option Expr) (body : List (Stmt Hole))

end

namespace Stmt

variable {Hole : Type}

def span : Stmt Hole → Span
  | .simple s _ | .hole s _ | .branch s _ _ _ | .loop s _ _ _ | .function s _ _ | .klass s _ _
  | .withItems s _ _ _ | .attempt s _ _ _ _ _ | .select s _ _ => s

/-- Whether a statement is a `for` or `while` loop. -/
def isLoop : Stmt Hole → Bool
  | .loop _ _ _ _ => true
  | _ => false

/-- Whether a statement is an `if`. -/
def isBranch : Stmt Hole → Bool
  | .branch _ _ _ _ => true
  | _ => false

end Stmt

instance {Hole : Type} : Inhabited (Stmt Hole) := ⟨.simple default .pass⟩

def Handler.body {Hole : Type} : Handler Hole → List (Stmt Hole)
  | .mk _ _ _ b => b

def Case.body {Hole : Type} : Case Hole → List (Stmt Hole)
  | .mk _ _ b => b

/-- A whole source file. -/
structure Module (Hole : Type) where
  body : List (Stmt Hole)

/-- The two jumps that leave or continue a loop. -/
inductive JumpKind where
  | breaks
  | continues
deriving DecidableEq, Repr

/-- What stands for a statement between expansion and lowering: a jump to a labelled loop, or the
label of the loop that follows. -/
inductive Placeholder where
  | jump (kind : JumpKind) (label : Expr)
  | loopLabel (label : Expr)

/-- Types whose values hold expressions. -/
class HasExprs (α : Type) where
  exprs : α → List Expr

instance : HasExprs Empty := ⟨fun e => nomatch e⟩

instance : HasExprs Placeholder where
  exprs
    | .jump _ l => [l]
    | .loopLabel l => [l]

end JumpMacros
