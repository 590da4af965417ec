import JumpMacros.Decimal.Whole
import JumpMacros.Tree.StmtText

/-!
# What can be written

Two kinds of expression have no text: a whole number with too many digits, and a formatted string
with a field whose own text needs a backslash, which a field cannot hold. The first of them in the
order of the text is what is reported.
-/

namespace JumpMacros

/-- Why a tree has no text. -/
inductive Unwritable where
  | backslash
  | tooManyDigits
deriving DecidableEq, Repr

def Unwritable.message : Unwritable → String
  | .backslash => "Unable to avoid backslash in f-string expression part"
  | .tooManyDigits => Decimal.tooLongToWrite

/-- Why a literal has no text. -/
def Constant.unwritable? : Constant → Option Unwritable
  | .int n => if Decimal.isTooLong n then some .tooManyDigits else .none
  | _ => .none

/-! ## The order of the text -/

namespace Node

variable {Hole : Type} [HasExprs Hole]

/-- The nodes directly under a node as they are written: in a conditional expression the test
stands behind what it chooses first. -/
def writtenChildren : Node Hole → List (Node Hole)
  | .expr (.conditional _ t b o) => ofExprs [b, t, o]
  | n => n.children

theorem weights_writtenChildren (n : Node Hole) :
    weights n.writtenChildren = weights n.children := by
  unfold writtenChildren
  split
  · simp [children, Expr.children, ofExprs]
    omega
  · rfl

/-- The nodes of a list of trees as they are written, parents before children. -/
def inText : List (Node Hole) → List (Node Hole)
  | [] => []
  | n :: rest => n :: inText (n.writtenChildren ++ rest)
termination_by todo => weights todo
decreasing_by
  have := weight_eq n
  have := weights_writtenChildren n
  simp
  omega

end Node

/-! ## Reasons -/

/-- The first of the literals in an expression that has no text. -/
def Expr.longLiteral? (e : Expr) : Option Unwritable :=
  (Node.inText [(Node.expr e : Node Empty)]).findSome? fun
    | .expr (.const _ c) => c.unwritable?
    | _ => none

mutual

/-- Why a piece of a formatted string has no text: first what is in a field, then the field, then
its format. -/
def Piece.unwritable? : Piece → Option Unwritable
  | .text _ => none
  | .field v _ f =>
    v.longLiteral? <|>
      (if (v.text true .or).toList.contains '\\' then some .backslash else none) <|>
      Piece.formatUnwritable? f

def Piece.formatUnwritable? : Option (List Piece) → Option Unwritable
  | none => none
  | some ps => Piece.firstUnwritable? ps

def Piece.firstUnwritable? : List Piece → Option Unwritable
  | [] => none
  | p :: ps => p.unwritable? <|> Piece.firstUnwritable? ps

end

/-- Why a node has no text, as far as it does not lie in a node below. -/
def Node.unwritable? {Hole : Type} : Node Hole → Option Unwritable
  | .expr (.const _ c) => c.unwritable?
  | .expr (.fstring _ ps) => Piece.firstUnwritable? ps
  | _ => none

/-- Why some of the given trees have no text. -/
def Node.firstUnwritable? {Hole : Type} [HasExprs Hole] (ns : List (Node Hole)) :
    Option Unwritable :=
  (Node.inText ns).findSome? Node.unwritable?

/-- The text of an expression where no more than the default is required, if it has one. -/
def Expr.written (e : Expr) : Except Unwritable String :=
  match Node.firstUnwritable? [(Node.expr e : Node Empty)] with
  | some u => .error u
  | none => .ok e.plain

/-- The canonical text of a module, if it has one. -/
def Module.written (m : Module Empty) : Except Unwritable String :=
  match Node.firstUnwritable? (Node.ofStmts m.body) with
  | some u => .error u
  | none => .ok m.text

end JumpMacros
