import JumpMacros.Tree.Node

/-!
# Names of a compiled tree

The names `None`, `True` and `False` are words of the language, and `_` in a pattern is the
wildcard. A source text can still bring them into a tree as plain names, by characters that only
stand for these letters. `Module.unusableName` finds the first such name in the order in which
the compiler looks at a tree: bodies of definitions come before their heads, and what an
operator, index or comprehension applies to comes after it.
-/

namespace JumpMacros

/-- The name under which a private name of a class is kept: two underscores in front, and not two
behind. -/
def mangled (className : Option String) (name : String) : String :=
  match className with
  | none => name
  | some c =>
    let stem := String.ofList (c.toList.dropWhile (· == '_'))
    if name.startsWith "__" && !name.endsWith "__" && !stem.isEmpty then "_" ++ stem ++ name
    else name

/-- A name that a compiled tree may not hold. -/
inductive UnusableName where
  | reserved (name : String)
  | wildcard
deriving DecidableEq, Repr

def UnusableName.text : UnusableName → String
  | .reserved n => "identifier field can't represent '" ++ n ++ "' constant"
  | .wildcard => "can't capture name '_' in patterns"

/-- The words that cannot be names. -/
def reservedNames : List String := ["None", "True", "False"]

namespace Node

/-- A name, unless a tree may hold it. -/
def reserved? (name : String) : Option UnusableName :=
  if reservedNames.contains name then some (.reserved name) else none

/-- A name that a pattern binds, unless it may. -/
def uncaptured? (name : String) : Option UnusableName :=
  if name == "_" then some .wildcard else reserved? name

/-- What is wrong with the names of a node itself. -/
def unusableName : Node Empty → Option UnusableName
  | .expr (.name _ id _) => reserved? id
  | .pattern (.klass _ _ _ names _) => names.findSome? reserved?
  | .pattern p => p.binds.bind uncaptured?
  | _ => none

/-- The nodes under a node whose names are looked at, in that order. The target of a named
expression is not. -/
def checked : Node Empty → List (Node Empty)
  | .stmt (.function _ h b) =>
    ofStmts b ++ ofExprs h.params.exprs ++ ofExprs h.decorators ++ ofExprs h.returns.toList
  | .stmt (.klass _ h b) =>
    ofStmts b ++ ofExprs h.bases ++ ofExprs (h.keywords.map Keyword.value) ++ ofExprs h.decorators
  | .stmt (.simple _ (.annotated t n v _)) => .expr t :: ofExprs v.toList ++ [.expr n]
  | .expr (.compare _ l cs) => ofExprs (cs.map Comparand.operand) ++ [.expr l]
  | .expr (.subscript _ v i) => [.expr i, .expr v]
  | .expr (.comprehension _ _ e cs) => ofExprs (cs.flatMap Clause.exprs) ++ [.expr e]
  | .expr (.dictComprehension _ k v cs) => ofExprs (cs.flatMap Clause.exprs) ++ [.expr k, .expr v]
  | .expr (.named _ _ v) => [.expr v]
  | n => n.children

theorem weights_checked_le (n : Node Empty) : weights n.checked ≤ weights n.children := by
  unfold checked
  split <;> simp [children, ofStmt, FunctionHead.exprs, ClassHead.exprs, Simple.exprs,
    Expr.children, exprWeights, weight] <;> omega

/-- The first unusable name in a list of trees. -/
def firstUnusable : List (Node Empty) → Option UnusableName
  | [] => none
  | n :: rest => n.unusableName <|> firstUnusable (n.checked ++ rest)
termination_by todo => weights todo
decreasing_by
  have := weight_eq n
  have := weights_checked_le n
  simp; omega

end Node

/-- The first name of a module that a compiled tree may not hold. -/
def Module.unusableName (m : Module Empty) : Option UnusableName :=
  Node.firstUnusable (Node.ofStmts m.body)

end JumpMacros
