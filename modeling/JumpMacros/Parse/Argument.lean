import JumpMacros.Parse.Goal

/-!
# Reading arguments

The arguments of calls and of class definitions: positional ones first, those with a star among
them, then keyword ones, and at last those with two stars.
-/

namespace JumpMacros

open Reader

/-- Arguments, positional and by keyword. -/
structure CallArguments where
  positional : List Expr
  keywords : List Keyword

namespace CallArguments

def empty : CallArguments := ⟨[], []⟩

def append (a b : CallArguments) : CallArguments :=
  ⟨a.positional ++ b.positional, a.keywords ++ b.keywords⟩

def join (as : List CallArguments) : CallArguments := as.foldl append empty

end CallArguments

/-! ## Clauses of comprehensions -/

/-- The targets of an assignment or of a `for`: one, or several as a tuple. -/
def starTargets (r : Recur) : Reader Expr := do
  let start ← here
  firstOf [
    do
      let t ← r .target
      notFollowedBy (mark ",")
      return t,
    do
      let ts ← separated "," (r .target)
      let _ ← optional (mark ",")
      return .display start .tuple ts]

/-- A mistaken target after `for`. -/
def mistakenLoopTarget {α : Type} (r : Recur) : Reader α := do
  let _ ← optional (word "async")
  let _ ← word "for"
  refuseTarget .loop (← r .starExpressions)

/-- A `for` clause. From `in` on, nothing else can be meant. -/
def clause (r : Recur) : Reader Clause := do
  let header : Reader (Bool × Expr) := do
    let isAsync := (← optional (word "async")).isSome
    let _ ← word "for"
    let t ← starTargets r
    let _ ← word "in"
    return (isAsync, t)
  match ← optional header with
  | some (isAsync, t) =>
    let iter ← r .disjunction
    let conds ← many do
      let _ ← word "if"
      r .disjunction
    return .mk isAsync t iter conds
  | none => explaining (mistakenLoopTarget r)

def clauses (r : Recur) : Reader (List Clause) := manyOne (clause r)

/-! ## Arguments -/

/-- An argument by keyword, or a mistaken one. -/
def mistakenKeyword {α : Type} (r : Recur) : Reader α :=
  firstOf [
    do
      let t ← satisfy fun t => isWord "True" t || isWord "False" t || isWord "None" t
      let _ ← mark "="
      match t.kind with
      | .word w => raise (.badTarget "assign to" w) t
      | _ => fail,
    do
      let (_, p) ← placedName
      let _ ← mark "="
      let _ ← r .expression
      let _ ← clauses r
      raiseAt (.other "invalid syntax. Maybe you meant '==' or ':=' instead of '='?") p,
    do
      notFollowedBy do
        let _ ← name
        mark "="
      let e ← r .expression
      let _ ← mark "="
      raiseAt (.other "expression cannot contain assignment, perhaps you meant \"==\"?") e.pos]

def keywordArgument (r : Recur) : Reader CallArguments := do
  let (n, p) ← placedName
  let _ ← mark "="
  return ⟨[], [.mk p (some n) (← r .expression)]⟩

/-- A keyword argument, or a positional one with a star. -/
def keywordOrStarred (r : Recur) : Reader CallArguments :=
  firstOf [explaining (mistakenKeyword r), keywordArgument r,
    return ⟨[← starredExpression r], []⟩]

/-- A keyword argument, or one with two stars. -/
def keywordOrSpread (r : Recur) : Reader CallArguments :=
  firstOf [explaining (mistakenKeyword r), keywordArgument r, do
    let t ← mark "**"
    return ⟨[], [.mk t.start none (← r .expression)]⟩]

def keywordArguments (r : Recur) : Reader CallArguments :=
  firstOf [
    do
      let as ← separated "," (keywordOrStarred r)
      let _ ← mark ","
      let bs ← separated "," (keywordOrSpread r)
      return CallArguments.join (as ++ bs),
    CallArguments.join <$> separated "," (keywordOrStarred r),
    CallArguments.join <$> separated "," (keywordOrSpread r)]

/-- A positional argument. -/
def positionalArgument (r : Recur) : Reader Expr :=
  orElse (starredExpression r) do
    let e ← orElse (assignmentExpression r) (unassigned r)
    notFollowedBy (mark "=")
    return e

/-- Arguments, without a comma at the end. -/
def plainArguments (r : Recur) : Reader CallArguments :=
  orElse (do
    let ps ← separated "," (positionalArgument r)
    let ks ← optional do
      let _ ← mark ","
      keywordArguments r
    return CallArguments.append ⟨ps, []⟩ (ks.getD .empty))
  (keywordArguments r)

/-- Mistakes in arguments. -/
def mistakenArguments (r : Recur) : Reader CallArguments :=
  let crowded := FaultKind.other "Generator expression must be parenthesized"
  firstOf [
    do
      let start ← here
      let _ ← plainArguments r
      let _ ← mark ","
      let _ ← mark "*"
      raiseAt (.other "iterable argument unpacking follows keyword argument unpacking") start,
    do
      let e ← r .expression
      let _ ← clauses r
      let _ ← mark ","
      let _ ← optional (orElse (discard (plainArguments r)) do
        let _ ← r .expression
        discard (clauses r))
      raiseAt crowded e.pos,
    do
      let (_, p) ← placedName
      let _ ← mark "="
      let _ ← r .expression
      let _ ← clauses r
      raiseAt (.other "invalid syntax. Maybe you meant '==' or ':=' instead of '='?") p,
    do
      let as ← plainArguments r
      let _ ← clauses r
      match as.positional.getLast? with
      | some e => if as.positional.length > 1 then raiseAt crowded e.pos else fail
      | none => fail,
    do
      let _ ← plainArguments r
      let _ ← mark ","
      let e ← r .expression
      let _ ← clauses r
      raiseAt crowded e.pos,
    do
      let as ← plainArguments r
      let _ ← mark ","
      let _ ← plainArguments r
      let isSpread := as.keywords.any fun k => k.name.isNone
      raiseHere (.other ("positional argument follows keyword argument" ++
        (if isSpread then " unpacking" else "")))]

/-- The arguments between parentheses. -/
def arguments (r : Recur) : Reader CallArguments :=
  orElse (do
    let as ← plainArguments r
    let _ ← optional (mark ",")
    followedBy (mark ")")
    return as)
  (explaining (mistakenArguments r))

end JumpMacros
