import JumpMacros.Parse.Pattern

/-!
# Reading simple statements

Readers for the statements that hold no blocks: assignments, imports, and those that start with a
word of their own.
-/

namespace JumpMacros

open Reader

/-- What reading statements needs: nested expressions, patterns, the statements of blocks, and a
bound on the depth of parentheses around a target. -/
structure Readers where
  exprs : Recur
  pattern : Reader Pattern
  statement : Reader (List (Stmt Empty))
  depth : Nat

/-- The span from a place to the end of what was read last. -/
def spanFrom (start : Position) : Reader Span := fun _ s =>
  (.ok ⟨start.line, start.col, s.last.line, s.last.col⟩, s)

/-! ## Assignments -/

def augmentedMark : String → Option BinaryOp
  | "+=" => some .add
  | "-=" => some .sub
  | "*=" => some .mul
  | "@=" => some .matMul
  | "/=" => some .div
  | "%=" => some .mod
  | "//=" => some .floorDiv
  | "**=" => some .pow
  | "<<=" => some .shiftLeft
  | ">>=" => some .shiftRight
  | "|=" => some .bitOr
  | "^=" => some .bitXor
  | "&=" => some .bitAnd
  | _ => none

/-- The operator of an augmented assignment. -/
def augmentation : Reader BinaryOp := do
  let t ← advance
  match t.kind with
  | .mark m =>
    match augmentedMark m with
    | some op => return op
    | none => fail
  | _ => fail

/-- What can stand to the right of an assignment. -/
def assignedValue (r : Recur) : Reader Expr := orElse (yieldExpression r) (starExpressions r)

/-- The annotation of a target, and the value assigned to it. -/
def annotation (r : Recur) (bare : Bool) (target : Expr) : Reader Simple := do
  let _ ← mark ":"
  let note ← expression r
  let value ← optional do
    let _ ← mark "="
    assignedValue r
  return .annotated target note value bare

/-- Targets with an equals sign. -/
def assignedTargets (r : Recur) : Reader Expr := do
  let t ← starTargets r
  let _ ← mark "="
  return t

/-- A list or tuple, perhaps in parentheses, that is no target of an annotation. -/
def mistakenNoted (r : Recur) : Nat → Reader Expr
  | 0 => fail
  | depth + 1 =>
    firstOf [listDisplay r, tupleDisplay r, do
      let _ ← mark "("
      let e ← mistakenNoted r depth
      let _ ← mark ")"
      return e]

/-- Mistakes in assignments. -/
def mistakenAssignment (r : Recur) (depth : Nat) : Reader Simple :=
  firstOf [
    do
      let e ← mistakenNoted r depth
      let _ ← mark ":"
      let _ ← expression r
      raiseAt (.other ("only single target (not " ++ e.describe ++ ") can be annotated")) e.pos,
    do
      let e ← starNamedExpression r
      let _ ← mark ","
      let _ ← many (starNamedExpressions r)
      let _ ← mark ":"
      let _ ← expression r
      raiseAt (.other "only single target (not tuple) can be annotated") e.pos,
    do
      let e ← expression r
      let _ ← mark ":"
      let _ ← expression r
      raiseAt (.other "illegal target for annotation") e.pos,
    do
      let _ ← many (assignedTargets r)
      let e ← starExpressions r
      let _ ← mark "="
      refuseTarget .assigned e,
    do
      let _ ← many (assignedTargets r)
      let e ← yieldExpression r
      let _ ← mark "="
      raiseAt (.other "assignment to yield expression not possible") e.pos,
    do
      let e ← starExpressions r
      let _ ← augmentation
      let _ ← assignedValue r
      raiseAt (.other ("'" ++ e.describe ++ "' is an illegal expression for augmented assignment"))
        e.pos]

/-- An assignment. After the operator of an augmented one, nothing else can be meant. -/
def assignment (r : Recur) (depth : Nat) : Reader Simple := do
  let annotated : Reader Simple :=
    orElse (do annotation r true (← boundName .store)) do
      let t ← orElse (do
        let _ ← mark "("
        let e ← singleTarget r depth
        let _ ← mark ")"
        return e) (memberTarget r)
      annotation r false t
  let chain : Reader Simple := do
    let ts ← manyOne (assignedTargets r)
    let v ← assignedValue r
    notFollowedBy (mark "=")
    return .assign ts v
  let augmented : Reader (Expr × BinaryOp) := do
    let t ← singleTarget r depth
    return (t, ← augmentation)
  match ← optional (orElse annotated chain) with
  | some s => return s
  | none =>
    match ← optional augmented with
    | some (t, op) => return .augmented t op (← assignedValue r)
    | none => explaining (mistakenAssignment r depth)

/-! ## Imports -/

/-- A name with the names of the modules it is in, and where it starts. -/
def dottedName : Reader (String × Position) := do
  let (first, p) ← placedName
  let rest ← many do
    let _ ← mark "."
    name
  return (".".intercalate (first :: rest), p)

def importAlias (path : Reader (String × Position)) : Reader Alias := do
  let (n, p) ← path
  let asName ← optional do
    let _ ← word "as"
    name
  return ⟨p, n, asName⟩

/-- The full stops before the name of a module. -/
def importDots : Reader Nat := do
  let t ← anyMark [".", "..."]
  return if isMark "." t then 1 else 3

def importedNames : Reader (List Alias) :=
  let names : Reader (List Alias) := separated "," (importAlias placedName)
  firstOf [
    do
      let _ ← mark "("
      let as ← names
      let _ ← optional (mark ",")
      let _ ← mark ")"
      return as,
    do
      let as ← names
      notFollowedBy (mark ",")
      return as,
    do
      let t ← mark "*"
      return [⟨t.start, "*", none⟩],
    explaining do
      let _ ← names
      let _ ← mark ","
      let _ ← newline
      raiseHere (.other "trailing comma not allowed without surrounding parentheses")]

def importFrom : Reader Simple :=
  firstOf [
    do
      let _ ← word "from"
      let dots ← many importDots
      let (path, _) ← dottedName
      let _ ← word "import"
      return .importsFrom (some path) (← importedNames) (dots.foldl (· + ·) 0),
    do
      let _ ← word "from"
      let dots ← manyOne importDots
      let _ ← word "import"
      return .importsFrom none (← importedNames) (dots.foldl (· + ·) 0)]

/-! ## Simple statements -/

def deletion (r : Recur) : Reader Simple :=
  firstOf [
    do
      let _ ← word "del"
      let ts ← deletedTargets r
      followedBy (satisfy fun t => isMark ";" t || t.kind == .newline)
      return .deletes ts,
    explaining do
      let _ ← word "del"
      refuseTarget .deleted (← starExpressions r)]

/-- A simple statement that starts with a given reserved word. -/
def wordStatement (r : Recur) (w : String) : Reader Simple := do
  match w with
  | "return" =>
    let _ ← advance
    return .returns (← optional (starExpressions r))
  | "import" =>
    let _ ← advance
    return .imports (← separated "," (importAlias dottedName))
  | "from" => importFrom
  | "raise" =>
    let _ ← advance
    let e ← optional (expression r)
    let cause ← if e.isSome then
        optional do
          let _ ← word "from"
          expression r
      else pure none
    return .raises e cause
  | "pass" =>
    let _ ← advance
    return .pass
  | "del" => deletion r
  | "yield" => return .expr (← yieldExpression r)
  | "assert" =>
    let _ ← advance
    let test ← expression r
    let message ← optional do
      let _ ← mark ","
      expression r
    return .asserts test message
  | "break" =>
    let _ ← advance
    return .breaks
  | "continue" =>
    let _ ← advance
    return .continues
  | "global" =>
    let _ ← advance
    return .globals (← separated "," name)
  | "nonlocal" =>
    let _ ← advance
    return .nonlocals (← separated "," name)
  | _ => fail

def simpleStatement (rs : Readers) : Reader (Stmt Empty) := do
  let t ← peek
  let s ← firstOf [
    assignment rs.exprs rs.depth,
    do return .expr (← starExpressions rs.exprs),
    match t.kind with
    | .word w => wordStatement rs.exprs w
    | _ => fail]
  return .simple (← spanFrom t.start) s

/-- The simple statements of a line, separated by semicolons. -/
def simpleStatements (rs : Readers) : Reader (List (Stmt Empty)) := do
  let ss ← separated ";" (simpleStatement rs)
  let _ ← optional (mark ";")
  let _ ← newline
  return ss

end JumpMacros
