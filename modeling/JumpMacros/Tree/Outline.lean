import JumpMacros.Tree.Stmt

/-!
# Outlines

The statements of a module in source order, each with its depth, the name of its kind and its
span. The names are those of the host language's own tree.
-/

namespace JumpMacros

/-- The name of the kind of a simple statement. -/
def Simple.kindName : Simple → String
  | .expr _ => "Expr"
  | .assign _ _ => "Assign"
  | .augmented _ _ _ => "AugAssign"
  | .annotated _ _ _ _ => "AnnAssign"
  | .deletes _ => "Delete"
  | .pass => "Pass"
  | .breaks => "Break"
  | .continues => "Continue"
  | .returns _ => "Return"
  | .raises _ _ => "Raise"
  | .asserts _ _ => "Assert"
  | .globals _ => "Global"
  | .nonlocals _ => "Nonlocal"
  | .imports _ => "Import"
  | .importsFrom _ _ _ => "ImportFrom"

/-- The name of the kind of a statement. -/
def Stmt.kindName : Stmt Empty → String
  | .simple _ s => s.kindName
  | .hole _ h => nomatch h
  | .branch _ _ _ _ => "If"
  | .loop _ (.over false _ _) _ _ => "For"
  | .loop _ (.over true _ _) _ _ => "AsyncFor"
  | .loop _ (.whilst _) _ _ => "While"
  | .function _ h _ => if h.isAsync then "AsyncFunctionDef" else "FunctionDef"
  | .klass _ _ _ => "ClassDef"
  | .withItems _ isAsync _ _ => if isAsync then "AsyncWith" else "With"
  | .attempt _ star _ _ _ _ => if star then "TryStar" else "Try"
  | .select _ _ _ => "Match"

/-- A statement in an outline. -/
structure OutlineItem where
  depth : Nat
  kind : String
  span : Span
deriving DecidableEq, Repr

mutual

/-- The outline of a statement at a depth. -/
def Stmt.outline (depth : Nat) (s : Stmt Empty) : List OutlineItem :=
  ⟨depth, s.kindName, s.span⟩ ::
    match s with
    | .simple _ _ => []
    | .hole _ h => nomatch h
    | .branch _ _ b o => Stmt.outlines (depth + 1) b ++ Stmt.outlines (depth + 1) o
    | .loop _ _ b o => Stmt.outlines (depth + 1) b ++ Stmt.outlines (depth + 1) o
    | .function _ _ b | .klass _ _ b | .withItems _ _ _ b => Stmt.outlines (depth + 1) b
    | .attempt _ _ b hs o f =>
      Stmt.outlines (depth + 1) b ++ Handler.outlines (depth + 1) hs ++
        Stmt.outlines (depth + 1) o ++ Stmt.outlines (depth + 1) f
    | .select _ _ cs => Case.outlines (depth + 1) cs

def Stmt.outlines (depth : Nat) : List (Stmt Empty) → List OutlineItem
  | [] => []
  | s :: ss => s.outline depth ++ Stmt.outlines depth ss

def Handler.outlines (depth : Nat) : List (Handler Empty) → List OutlineItem
  | [] => []
  | .mk _ _ _ b :: hs => Stmt.outlines depth b ++ Handler.outlines depth hs

def Case.outlines (depth : Nat) : List (Case Empty) → List OutlineItem
  | [] => []
  | .mk _ _ b :: cs => Stmt.outlines depth b ++ Case.outlines depth cs

end

end JumpMacros
