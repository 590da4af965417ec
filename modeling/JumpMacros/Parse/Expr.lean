import JumpMacros.Parse.Argument
import JumpMacros.Parse.Literal
import JumpMacros.Parse.Params

/-!
# Reading expressions

One reader for each form and each level of the grammar, from brackets and other atoms up to lists
of expressions; then the forms that can be assigned to. `expressionAt` ties the knot.
-/

namespace JumpMacros

open Reader

/-! ## Brackets -/

def yieldExpression (r : Recur) : Reader Expr :=
  firstOf [
    do
      let t ← word "yield"
      let _ ← word "from"
      return .yieldFrom t.start (← r .expression),
    do
      let t ← word "yield"
      return .yield t.start (← optional (r .starExpressions))]

def tupleDisplay (r : Recur) : Reader Expr := do
  let t ← mark "("
  let es ← optional do
    let first ← starNamedExpression r
    let _ ← mark ","
    let rest ← optional (starNamedExpressions r)
    return first :: rest.getD []
  let _ ← mark ")"
  return .display t.start .tuple (es.getD [])

/-- An expression in parentheses. -/
def group (r : Recur) : Reader Expr :=
  firstOf [
    do
      let _ ← mark "("
      let e ← orElse (yieldExpression r) (r .named)
      let _ ← mark ")"
      return e,
    explaining do
      let _ ← mark "("
      let e ← starredExpression r
      let _ ← mark ")"
      raiseAt (.other "cannot use starred expression here") e.pos,
    explaining do
      let _ ← mark "("
      let t ← mark "**"
      let _ ← r .expression
      let _ ← mark ")"
      raise (.other "cannot use double starred expression here") t]

/-- Mistakes in comprehensions. -/
def mistakenComprehension (r : Recur) : Reader Expr :=
  let forgotten := FaultKind.other "did you forget parentheses around the comprehension target?"
  firstOf [
    do
      let _ ← anyMark ["[", "(", "\x7b"]
      let e ← starredExpression r
      let _ ← clauses r
      raiseAt (.other "iterable unpacking cannot be used in comprehension") e.pos,
    do
      let _ ← anyMark ["[", "\x7b"]
      let e ← starNamedExpression r
      let _ ← mark ","
      let _ ← starNamedExpressions r
      let _ ← clauses r
      raiseAt forgotten e.pos,
    do
      let _ ← anyMark ["[", "\x7b"]
      let e ← starNamedExpression r
      let _ ← mark ","
      let _ ← clauses r
      raiseAt forgotten e.pos]

/-- A comprehension between two marks. -/
def comprehensionOf (r : Recur) (kind : ComprehensionKind) (opener closer : String)
    (element : Reader Expr) : Reader Expr :=
  orElse (do
    let t ← mark opener
    let e ← element
    let cs ← clauses r
    let _ ← mark closer
    return .comprehension t.start kind e cs)
  (explaining (mistakenComprehension r))

def generator (r : Recur) : Reader Expr :=
  comprehensionOf r .generator "(" ")" (orElse (assignmentExpression r) (unassigned r))

def listDisplay (r : Recur) : Reader Expr := do
  let t ← mark "["
  let es ← optional (starNamedExpressions r)
  let _ ← mark "]"
  return .display t.start .list (es.getD [])

def setDisplay (r : Recur) : Reader Expr := do
  let t ← mark "\x7b"
  let es ← starNamedExpressions r
  let _ ← mark "\x7d"
  return .display t.start .set es

def keyValue (r : Recur) : Reader (Expr × Expr) := do
  let k ← r .expression
  let _ ← mark ":"
  return (k, ← r .expression)

def dictEntry (r : Recur) : Reader Entry :=
  firstOf [
    do
      let _ ← mark "**"
      return .spread (← r .bitOr),
    do
      let (k, v) ← keyValue r
      return .pair k v]

/-- Mistakes in a value of a dictionary display. -/
def mistakenValue {α : Type} (r : Recur) : Reader α :=
  firstOf [
    do
      let _ ← r .expression
      let _ ← mark ":"
      let t ← mark "*"
      let _ ← r .bitOr
      raise (.other "cannot use a starred expression in a dictionary value") t,
    do
      let _ ← r .expression
      let t ← mark ":"
      followedBy (anyMark ["\x7d", ","])
      raise (.other "expression expected after dictionary key and ':'") t]

/-- Mistakes in dictionary displays. -/
def mistakenEntries (r : Recur) : Reader Expr :=
  firstOf [
    do
      let _ ← separated "," (dictEntry r)
      let _ ← mark ","
      orElse (do
        let e ← r .expression
        let last := (← read).tokens.getD ((← get).index - 1) default
        notFollowedBy (mark ":")
        raiseIn (.other "':' expected after dictionary key") e.pos.line last.shownLast)
        (mistakenValue r),
    mistakenValue r]

def dictDisplay (r : Recur) : Reader Expr :=
  firstOf [
    do
      let t ← mark "\x7b"
      let es ← optional do
        let es ← separated "," (dictEntry r)
        let _ ← optional (mark ",")
        return es
      let _ ← mark "\x7d"
      return .dict t.start (es.getD []),
    do
      let _ ← mark "\x7b"
      let e ← mistakenEntries r
      let _ ← mark "\x7d"
      return e]

def dictComprehension (r : Recur) : Reader Expr :=
  firstOf [
    do
      let t ← mark "\x7b"
      let (k, v) ← keyValue r
      let cs ← clauses r
      let _ ← mark "\x7d"
      return .dictComprehension t.start k v cs,
    explaining do
      let _ ← mark "\x7b"
      let t ← mark "**"
      let _ ← r .bitOr
      let _ ← clauses r
      let _ ← mark "\x7d"
      raise (.other "dict unpacking cannot be used in dict comprehension") t]

/-! ## Atoms and what follows them -/

def constantWord : String → Option Constant
  | "None" => some .none
  | "True" => some (.bool true)
  | "False" => some (.bool false)
  | _ => none

def atom (r : Recur) : Reader Expr := do
  let t ← peek
  match t.kind with
  | .name id _ =>
    let _ ← advance
    return .name t.start id .load
  | .number _ _ => numberLiteral
  | .string _ => stringLiterals r
  | .word w =>
    match constantWord w with
    | some c =>
      let _ ← advance
      return .const t.start c
    | none => fail
  | .mark m =>
    if m == "(" then firstOf [tupleDisplay r, group r, generator r]
    else if m == "[" then
      orElse (listDisplay r) (comprehensionOf r .list "[" "]" (r .named))
    else if m == "\x7b" then
      firstOf [dictDisplay r, setDisplay r, dictComprehension r,
        comprehensionOf r .set "\x7b" "\x7d" (r .named)]
    else if m == "..." then
      let _ ← advance
      return .const t.start .ellipsis
    else fail
  | _ => fail

def sliceItem (r : Recur) : Reader Expr :=
  firstOf [
    do
      let start ← here
      let lower ← optional (r .expression)
      let _ ← mark ":"
      let upper ← optional (r .expression)
      let step ← optional do
        let _ ← mark ":"
        optional (r .expression)
      return .slice start lower upper (step.bind id),
    r .named]

/-- What stands between the brackets of a subscript. -/
def slices (r : Recur) : Reader Expr := do
  let start ← here
  firstOf [
    do
      let e ← sliceItem r
      notFollowedBy (mark ",")
      return e,
    do
      let es ← separated "," (orElse (sliceItem r) (starredExpression r))
      let _ ← optional (mark ",")
      return .display start .tuple es]

/-- An expression with one more member name, argument list or index. -/
def trailer (r : Recur) (start : Position) (e : Expr) : Reader Expr :=
  firstOf [
    do
      let _ ← mark "."
      return .attr start e (← name),
    do
      return .call start e [← generator r] [],
    do
      let _ ← mark "("
      let as := (← optional (arguments r)).getD .empty
      let _ ← mark ")"
      return .call start e as.positional as.keywords,
    do
      let _ ← mark "["
      let i ← slices r
      let _ ← mark "]"
      return .subscript start e i]

def primary (r : Recur) : Reader Expr := remembered .primary do
  let start ← here
  extended (atom r) (trailer r start)

/-! ## Operators -/

def awaited (r : Recur) : Reader Expr := remembered .awaited do
  orElse (do
    let t ← word "await"
    return .await t.start (← primary r))
    (primary r)

def power (r : Recur) : Reader Expr := do
  let start ← here
  let base ← awaited r
  match ← optional (do
    let _ ← mark "**"
    r .factor) with
  | some e => return .binary start .pow base e
  | none => return base

def unaryMark : String → Option UnaryOp
  | "-" => some .minus
  | "+" => some .plus
  | "~" => some .invert
  | _ => none

def factor (r : Recur) : Reader Expr := remembered .factor do
  let t ← peek
  match t.kind with
  | .mark m =>
    match unaryMark m with
    | some op =>
      let _ ← advance
      return .unary t.start op (← r .factor)
    | none => power r
  | _ => power r

/-- A chain of operators that associate to the left. -/
def leftChain (rule : Reader.Rule) (ops : List (String × BinaryOp)) (operand : Reader Expr) :
    Reader Expr :=
  remembered rule do
    let start ← here
    extended operand fun l => do
      let t ← advance
      match t.kind with
      | .mark m =>
        match ops.lookup m with
        | some op => return .binary start op l (← operand)
        | none => fail
      | _ => fail

def term (r : Recur) : Reader Expr :=
  leftChain .term [("*", .mul), ("/", .div), ("//", .floorDiv), ("%", .mod), ("@", .matMul)]
    (factor r)

def sum (r : Recur) : Reader Expr := leftChain .sum [("+", .add), ("-", .sub)] (term r)

def shift (r : Recur) : Reader Expr :=
  leftChain .shift [("<<", .shiftLeft), (">>", .shiftRight)] (sum r)

def bitAnd (r : Recur) : Reader Expr := leftChain .bitAnd [("&", .bitAnd)] (shift r)

def bitXor (r : Recur) : Reader Expr := leftChain .bitXor [("^", .bitXor)] (bitAnd r)

def bitOr (r : Recur) : Reader Expr := leftChain .bitOr [("|", .bitOr)] (bitXor r)

def compareMark : String → Option CompareOp
  | "==" => some .eq
  | "!=" => some .notEq
  | "<" => some .lt
  | "<=" => some .ltEq
  | ">" => some .gt
  | ">=" => some .gtEq
  | _ => none

/-- A comparison operator with its right operand. -/
def comparand (r : Recur) : Reader Comparand := do
  let t ← advance
  match t.kind with
  | .mark m =>
    match compareMark m with
    | some op => return .mk op (← bitOr r)
    | none => fail
  | .word "in" => return .mk .isIn (← bitOr r)
  | .word "not" =>
    let _ ← word "in"
    return .mk .notIn (← bitOr r)
  | .word "is" =>
    let isNot := (← optional (word "not")).isSome
    return .mk (if isNot then .isNot else .is) (← bitOr r)
  | _ => fail

def comparison (r : Recur) : Reader Expr := do
  let start ← here
  let left ← bitOr r
  let rest ← many (comparand r)
  return if rest.isEmpty then left else .compare start left rest

def inversion (r : Recur) : Reader Expr := remembered .inversion do
  let t ← peek
  if isWord "not" t then
    let _ ← advance
    return .unary t.start .not (← r .inversion)
  else comparison r

/-- A chain of one boolean operator, which is a single expression with many operands. -/
def boolChain (w : String) (op : BoolOp) (operand : Reader Expr) : Reader Expr := do
  let start ← here
  let first ← operand
  let rest ← many do
    let _ ← word w
    operand
  return if rest.isEmpty then first else .boolean start op (first :: rest)

def conjunction (r : Recur) : Reader Expr :=
  remembered .conjunction (boolChain "and" .and (inversion r))

def disjunction (r : Recur) : Reader Expr :=
  remembered .disjunction (boolChain "or" .or (conjunction r))

/-! ## Expressions -/

/-- Whether a name once started statements. -/
def isFormerCommand (n : String) : Bool := n == "print" || n == "exec"

/-- Whether an expression is a name that once started statements. -/
def Expr.isFormerCommand : Expr → Bool
  | .name _ n _ => JumpMacros.isFormerCommand n
  | _ => false

/-- A name that may start a statement of another kind, or is the beginning of one that may. -/
def softName : Reader Token :=
  satisfy fun t => match t.kind with
    | .name _ written => ["match", "case", "_"].any (·.startsWith written)
    | _ => false

def conditional (r : Recur) : Reader Expr := do
  let start ← here
  let body ← disjunction r
  let _ ← word "if"
  let test ← disjunction r
  let _ ← word "else"
  return .conditional start test body (← r .expression)

/-- An expression read without looking for mistakes. -/
def plainExpression (r : Recur) : Reader Expr :=
  withoutExplaining (firstOf [conditional r, disjunction r, lambdaExpression r])

/-- Two expressions in a row, between which a comma may have been forgotten, or a condition without
its alternative. -/
def mistakenExpression (r : Recur) : Reader Expr :=
  firstOf [
    do
      notFollowedBy (orElse (do
        let _ ← name
        discard rawString) (discard softName))
      let e ← disjunction r
      let _ ← plainExpression r
      let last := (← read).tokens.getD ((← get).index - 1) default
      if e.isFormerCommand || last.level = 0 then fail
      else raiseAt (.other "invalid syntax. Perhaps you forgot a comma?") e.pos,
    do
      let e ← disjunction r
      let _ ← word "if"
      let _ ← disjunction r
      notFollowedBy (satisfy fun t => isWord "else" t || isMark ":" t)
      raiseAt (.other "expected 'else' after 'if' expression") e.pos]

/-- A statement of the former kind, which lacks its parentheses. -/
def formerStatement (r : Recur) : Reader Expr := do
  let (n, p) ← placedName
  notFollowedBy (mark "(")
  let _ ← r .starExpressions
  if isFormerCommand n then
    raiseAt (.other ("Missing parentheses in call to '" ++ n ++ "'. Did you mean " ++ n ++ "(...)?"))
      p
  else fail

def expression (r : Recur) : Reader Expr := remembered .expression do
  firstOf [explaining (mistakenExpression r), explaining (formerStatement r), conditional r,
    disjunction r, lambdaExpression r]

/-- An equals sign or `:=` after something that cannot be named. -/
def mistakenName (r : Recur) : Reader Expr := remembered .mistakenName do
  let noOther : Reader Unit := notFollowedBy (anyMark ["=", ":="])
  firstOf [
    do
      let e ← expression r
      let _ ← mark ":="
      let _ ← expression r
      raiseAt (.other ("cannot use assignment expressions with " ++ e.describe)) e.pos,
    do
      let (_, p) ← placedName
      let _ ← mark "="
      let _ ← bitOr r
      noOther
      raiseAt (.other "invalid syntax. Maybe you meant '==' or ':=' instead of '='?") p,
    do
      notFollowedBy (firstOf [listDisplay r, tupleDisplay r, generator r])
      notFollowedBy (satisfy fun t => isWord "True" t || isWord "None" t || isWord "False" t)
      let e ← bitOr r
      let _ ← mark "="
      let _ ← bitOr r
      noOther
      raiseAt (.maybeEquality e.describe) e.pos]

def namedExpression (r : Recur) : Reader Expr :=
  firstOf [assignmentExpression r, explaining (mistakenName r), do
    let e ← expression r
    notFollowedBy (mark ":=")
    return e]

def starExpression (r : Recur) : Reader Expr := remembered .starExpression do
  orElse (do
    let t ← mark "*"
    return .starred t.start (← bitOr r))
    (expression r)

/-- One expression, or several as a tuple. -/
def starExpressions (r : Recur) : Reader Expr := do
  let start ← here
  let first ← starExpression r
  let rest ← many do
    let _ ← mark ","
    starExpression r
  let comma ← optional (mark ",")
  return if rest.isEmpty && comma.isNone then first else .display start .tuple (first :: rest)

/-! ## Targets -/

/-- What tells that a target goes on. -/
def targetGoesOn : Reader Token := anyMark ["(", "[", "."]

/-- An expression that an attribute or an index of follows. -/
def targetPrimary (r : Recur) : Reader Expr := remembered .targetPrimary do
  let start ← here
  let first : Reader Expr := do
    let e ← atom r
    followedBy targetGoesOn
    return e
  extended first fun e => do
    let e ← trailer r start e
    followedBy targetGoesOn
    return e

/-- An attribute or an item of something. -/
def memberTarget (r : Recur) : Reader Expr := do
  let start ← here
  firstOf [
    do
      let e ← targetPrimary r
      let _ ← mark "."
      let n ← name
      notFollowedBy targetGoesOn
      return .attr start e n,
    do
      let e ← targetPrimary r
      let _ ← mark "["
      let i ← slices r
      let _ ← mark "]"
      notFollowedBy targetGoesOn
      return .subscript start e i]

/-- A name that is bound. -/
def boundName (use : NameUse) : Reader Expr := do
  let (id, p) ← placedName
  return .name p id use

/-- The targets of a tuple: two or more, or one with a comma. -/
def tupleTargets (r : Recur) : Reader (List Expr) :=
  firstOf [
    do
      let first ← r .target
      let rest ← manyOne do
        let _ ← mark ","
        r .target
      let _ ← optional (mark ",")
      return first :: rest,
    do
      let first ← r .target
      let _ ← mark ","
      return [first]]

def targetAtom (r : Recur) : Reader Expr := remembered .targetAtom do
  firstOf [
    memberTarget r,
    boundName .store,
    do
      let _ ← mark "("
      let e ← r .targetAtom
      let _ ← mark ")"
      return e,
    do
      let t ← mark "("
      let es ← optional (tupleTargets r)
      let _ ← mark ")"
      return .display t.start .tuple (es.getD []),
    do
      let t ← mark "["
      let es ← optional do
        let es ← separated "," (r .target)
        let _ ← optional (mark ",")
        return es
      let _ ← mark "]"
      return .display t.start .list (es.getD [])]

/-- A target, which may have a star. -/
def target (r : Recur) : Reader Expr := remembered .target do
  orElse (do
    let t ← mark "*"
    notFollowedBy (mark "*")
    return .starred t.start (← r .target))
    (targetAtom r)

/-- A single target. -/
def singleTarget (r : Recur) : Nat → Reader Expr
  | 0 => fail
  | depth + 1 =>
    firstOf [memberTarget r, boundName .store, do
      let _ ← mark "("
      let e ← singleTarget r depth
      let _ ← mark ")"
      return e]

/-- Deleted targets, with an optional comma at the end. -/
def deletedTargets (r : Recur) : Reader (List Expr) := do
  let es ← separated "," (r .deleted)
  let _ ← optional (mark ",")
  return es

/-- A target that is deleted. -/
def deletedTarget (r : Recur) : Reader Expr := remembered .deleted do
  firstOf [
    memberTarget r,
    boundName .delete,
    do
      let _ ← mark "("
      let e ← r .deleted
      let _ ← mark ")"
      return e,
    do
      let t ← mark "("
      let es ← optional (deletedTargets r)
      let _ ← mark ")"
      return .display t.start .tuple (es.getD []),
    do
      let t ← mark "["
      let es ← optional (deletedTargets r)
      let _ ← mark "]"
      return .display t.start .list (es.getD [])]

/-- Reads an expression of a level, with a bound on the depth of nesting. -/
def expressionAt : Nat → Goal → Reader Expr
  | 0, _ => fail
  | depth + 1, goal =>
    let r : Recur := expressionAt depth
    match goal with
    | .expression => expression r
    | .named => namedExpression r
    | .starExpressions => starExpressions r
    | .disjunction => disjunction r
    | .inversion => inversion r
    | .bitOr => bitOr r
    | .factor => factor r
    | .target => target r
    | .targetAtom => targetAtom r
    | .deleted => deletedTarget r

end JumpMacros
