import JumpMacros.Parse.Stream
import JumpMacros.Parse.Target

/-!
# Goals

Expressions nest: the rules for the innermost forms, such as brackets, refer back to the rules
for the outermost ones. They do so through `Recur`, a reader for each `Goal`. Going through it
comes after a token, or inside a literal, so the length of the text bounds the depth.
-/

namespace JumpMacros

open Reader

/-- What is read again inside of expressions. -/
inductive Goal where
  | expression
  | named
  | starExpressions
  | disjunction
  | inversion
  | bitOr
  | factor
  | target
  | targetAtom
  | deleted
deriving DecidableEq

/-- How nested expressions are read. -/
abbrev Recur := Goal → Reader Expr

/-- Where the next token starts. -/
def here : Reader Position := return (← peek).start

/-- Raises the fault of an expression that has a part which cannot be a target; fails if it has
none. -/
def refuseTarget {α : Type} (place : TargetPlace) (e : Expr) : Reader α :=
  match e.mistaken? place with
  | some bad =>
    raiseAt (.badTarget (if place = .deleted then "delete" else "assign to") bad.describe) bad.pos
  | none => fail

/-- A name with `:=` and the value it gets. -/
def assignmentExpression (r : Recur) : Reader Expr := do
  let (id, p) ← placedName
  let _ ← mark ":="
  return .named p (.name p id .store) (← r .expression)

/-- An expression after which no `:=` stands. -/
def unassigned (r : Recur) : Reader Expr := do
  let e ← r .expression
  notFollowedBy (mark ":=")
  return e

def starredExpression (r : Recur) : Reader Expr := do
  let t ← mark "*"
  return .starred t.start (← r .expression)

/-- An element of a display: an expression, which may be named, or one with a star. -/
def starNamedExpression (r : Recur) : Reader Expr :=
  orElse (do
    let t ← mark "*"
    return .starred t.start (← r .bitOr)) (r .named)

/-- The elements of a display, with an optional comma at the end. -/
def starNamedExpressions (r : Recur) : Reader (List Expr) := do
  let es ← separated "," (starNamedExpression r)
  let _ ← optional (mark ",")
  return es

end JumpMacros
