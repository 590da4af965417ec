import JumpMacros.Tree.Expr

/-!
# Mistaken targets

What faults call an expression that stands where only a target can, and which part of it cannot
be a target. Names, attributes and subscripts are targets, and so are lists and tuples of
targets.
-/

namespace JumpMacros

/-- What an expression is called in a fault. -/
def Expr.describe : Expr → String
  | .name _ _ _ => "name"
  | .const _ .none => "None"
  | .const _ (.bool true) => "True"
  | .const _ (.bool false) => "False"
  | .const _ .ellipsis => "ellipsis"
  | .const _ _ => "literal"
  | .fstring _ _ => "f-string expression"
  | .attr _ _ _ => "attribute"
  | .subscript _ _ _ => "subscript"
  | .starred _ _ => "starred"
  | .call _ _ _ _ => "function call"
  | .unary _ _ _ | .binary _ _ _ _ | .boolean _ _ _ => "expression"
  | .compare _ _ _ => "comparison"
  | .conditional _ _ _ _ => "conditional expression"
  | .lambda _ _ _ => "lambda"
  | .display _ .tuple _ => "tuple"
  | .display _ .list _ => "list"
  | .display _ .set _ => "set display"
  | .dict _ _ => "dict literal"
  | .comprehension _ .list _ _ => "list comprehension"
  | .comprehension _ .set _ _ => "set comprehension"
  | .comprehension _ .generator _ _ => "generator expression"
  | .dictComprehension _ _ _ _ => "dict comprehension"
  | .await _ _ => "await expression"
  | .yield _ _ | .yieldFrom _ _ => "yield expression"
  | .named _ _ _ => "named expression"
  | .slice _ _ _ _ => "slice"

/-- The places where targets stand: what is assigned to, what is deleted, and what a `for` runs
through. -/
inductive TargetPlace where
  | assigned
  | deleted
  | loop
deriving DecidableEq

mutual

/-- The part of an expression that cannot be a target. What stands before `for … in` may have been
read as a comparison, of which the left side is the target. -/
def Expr.mistaken? (place : TargetPlace) : Expr → Option Expr
  | .display _ .tuple es | .display _ .list es => Expr.firstMistaken? place es
  | .starred p v => if place = .deleted then some (.starred p v) else v.mistaken? place
  | .compare p l cs =>
    if place = .loop then
      match cs with
      | .mk .isIn _ :: _ => l.mistaken? place
      | _ => none
    else some (.compare p l cs)
  | .name _ _ _ | .attr _ _ _ | .subscript _ _ _ => none
  | e => some e

def Expr.firstMistaken? (place : TargetPlace) : List Expr → Option Expr
  | [] => none
  | e :: es => e.mistaken? place <|> Expr.firstMistaken? place es

end

end JumpMacros
