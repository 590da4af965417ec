import JumpMacros.Parse.Simple

/-!
# Reading statements

Readers for the headers of compound statements and for blocks. A compound statement reads its blocks
with a reader that is passed to it; `statementAt` ties the knot.
-/

namespace JumpMacros

open Reader

/-! ## Blocks -/

def indentToken : Reader Token := satisfy fun t => t.kind == .indent

/-- A line end after which no block starts. -/
def missingBlock {α : Type} (header : String) (line : Nat) : Reader α := do
  let _ ← newline
  notFollowedBy indentToken
  raiseHere (.missingBlock header line)

/-- A block after its colon: indented lines, or simple statements on the same line. -/
def block (rs : Readers) : Reader (List (Stmt Empty)) := rememberedBlock do
  firstOf [
    do
      let _ ← newline
      let _ ← indentToken
      let chunks ← manyOne rs.statement
      let _ ← satisfy fun t => t.kind == .dedent
      return chunks.flatten,
    simpleStatements rs,
    explaining do
      let _ ← newline
      notFollowedBy indentToken
      raiseHere (.other "expected an indented block")]

/-- Mistakes in what follows a header: a line that ends without a colon, and a block that is
missing. -/
def mistakenHeader {α β : Type} (header : Reader β) (title : String) (line : Nat) : Reader α :=
  firstOf [
    do
      let _ ← header
      let _ ← newline
      raiseHere (.expected ":"),
    do
      let _ ← header
      let _ ← mark ":"
      missingBlock title line]

/-- A header whose colon is needed, and the block after it. -/
def neededSuite (rs : Readers) : Reader (List (Stmt Empty)) := do
  needMark ":"
  block rs

/-- A colon and the block after it. -/
def suite (rs : Readers) : Reader (List (Stmt Empty)) := do
  let _ ← mark ":"
  block rs

def elseBlock (rs : Readers) : Reader (List (Stmt Empty)) := do
  let t ← peek
  firstOf [
    explaining do
      let _ ← word "else"
      let _ ← mark ":"
      missingBlock "'else' statement" t.start.line,
    do
      let _ ← word "else"
      neededSuite rs]

/-- An `else` part that may be there. -/
def optionalElse (rs : Readers) : Reader (List (Stmt Empty)) :=
  return (← optional (elseBlock rs)).getD []

/-! ## Compound statements -/

/-- An `if` or `elif` before its alternatives: where it starts, its test and its block. -/
structure Arm where
  start : Position
  test : Expr
  body : List (Stmt Empty)

def arm (rs : Readers) (w : String) : Reader Arm := do
  let t ← peek
  let header : Reader Expr := do
    let _ ← word w
    namedExpression rs.exprs
  firstOf [
    explaining (mistakenHeader header ("'" ++ w ++ "' statement") t.start.line),
    do
      let test ← header
      return ⟨t.start, test, ← suite rs⟩]

/-- Nests the arms of an `if` from the last to the first; they all end at one place. -/
def nestArms (stop : Position) (orelse : List (Stmt Empty)) (arms : List Arm) :
    List (Stmt Empty) :=
  arms.foldr (fun a rest =>
    [.branch ⟨a.start.line, a.start.col, stop.line, stop.col⟩ a.test a.body rest]) orelse

def ifStatement (rs : Readers) : Reader (List (Stmt Empty)) := do
  let first ← arm rs "if"
  let more ← many (arm rs "elif")
  let orelse ← optionalElse rs
  let sp ← spanFrom first.start
  return nestArms ⟨sp.endLine, sp.endCol⟩ orelse (first :: more)

def whileStatement (rs : Readers) : Reader (Stmt Empty) := do
  let t ← peek
  let header : Reader Expr := do
    let _ ← word "while"
    namedExpression rs.exprs
  firstOf [
    explaining (mistakenHeader header "'while' statement" t.start.line),
    do
      let test ← header
      let body ← suite rs
      let orelse ← optionalElse rs
      return .loop (← spanFrom t.start) (.whilst test) body orelse]

/-- A `for` loop. From `in` on, nothing else can be meant. -/
def forStatement (rs : Readers) : Reader (Stmt Empty) := do
  let start ← here
  let r := rs.exprs
  let header : Reader (Bool × Expr) := do
    let isAsync := (← optional (word "async")).isSome
    let _ ← word "for"
    let t ← starTargets r
    let _ ← word "in"
    return (isAsync, t)
  let line : Reader Nat := do
    let _ ← optional (word "async")
    return (← peek).start.line
  let mistaken : Reader (Stmt Empty) := do
    let index := (← get).index
    let forLine ← line
    modify fun s => { s with index }
    mistakenHeader (do
      let _ ← header
      starExpressions r) "'for' statement" forLine
  let loop : Reader (Stmt Empty) := do
    match ← optional header with
    | some (isAsync, t) =>
      let iter ← starExpressions r
      let body ← suite rs
      let orelse ← optionalElse rs
      return .loop (← spanFrom start) (.over isAsync t iter) body orelse
    | none => explaining (mistakenLoopTarget r)
  orElse (explaining mistaken) loop

/-- An item of a `with` statement. -/
def withItem (r : Recur) : Reader WithItem :=
  let stop : Reader Unit := followedBy (anyMark [",", ")", ":"])
  firstOf [
    do
      let e ← expression r
      let _ ← word "as"
      let t ← target r
      stop
      return ⟨e, some t⟩,
    explaining do
      let _ ← expression r
      let _ ← word "as"
      let e ← expression r
      stop
      refuseTarget .assigned e,
    do return ⟨← expression r, none⟩]

/-- One expression, or several as a tuple. -/
def expressions (r : Recur) : Reader Expr := do
  let start ← here
  let first ← expression r
  let rest ← many do
    let _ ← mark ","
    expression r
  let comma ← optional (mark ",")
  return if rest.isEmpty && comma.isNone then first else .display start .tuple (first :: rest)

/-- A target after `as`. -/
def asTarget (r : Recur) : Reader Expr := do
  let _ ← word "as"
  target r

def withStatement (rs : Readers) : Reader (Stmt Empty) := do
  let start ← here
  let r := rs.exprs
  let isAsync := (← optional (word "async")).isSome
  let t ← peek
  let plainHeader : Reader Unit := do
    let _ ← word "with"
    discard (separated "," do
      let _ ← expression r
      optional (asTarget r))
  let bracketHeader : Reader Unit := do
    let _ ← word "with"
    let _ ← mark "("
    let _ ← separated "," do
      let _ ← expressions r
      optional (asTarget r)
    let _ ← optional (mark ",")
    discard (mark ")")
  let withoutBlock (header : Reader Unit) : Reader (Stmt Empty) := explaining do
    header
    let _ ← mark ":"
    missingBlock "'with' statement" t.start.line
  let withoutColon (header : Reader Unit) : Reader (Stmt Empty) := explaining do
    header
    let _ ← newline
    raiseHere (.expected ":")
  firstOf [
    withoutBlock plainHeader,
    withoutBlock bracketHeader,
    do
      let _ ← word "with"
      let _ ← mark "("
      let items ← separated "," (withItem r)
      let _ ← optional (mark ",")
      let _ ← mark ")"
      let body ← suite rs
      return .withItems (← spanFrom start) isAsync items body,
    do
      let _ ← word "with"
      let items ← separated "," (withItem r)
      let body ← suite rs
      return .withItems (← spanFrom start) isAsync items body,
    withoutColon plainHeader,
    withoutColon bracketHeader]

/-! ## Exceptions -/

/-- The header of a handler with an exception type, before its colon. -/
def handlerType (r : Recur) (star : Bool) : Reader (Expr × Option String) := do
  let _ ← word "except"
  if star then discard (mark "*")
  let e ← expression r
  let n ← optional do
    let _ ← word "as"
    name
  return (e, n)

/-- Mistakes in the header of a handler. -/
def mistakenHandler (r : Recur) : Reader (Handler Empty) :=
  let starred : Reader Unit := do
    let _ ← word "except"
    discard (optional (mark "*"))
  let named : Reader Unit := discard (optional do
    let _ ← word "as"
    name)
  firstOf [
    do
      starred
      let e ← expression r
      let _ ← mark ","
      let _ ← expressions r
      named
      let _ ← mark ":"
      raiseAt (.other "multiple exception types must be parenthesized") e.pos,
    do
      starred
      let _ ← expression r
      named
      let _ ← newline
      raiseHere (.expected ":"),
    do
      let _ ← word "except"
      let _ ← newline
      raiseHere (.expected ":"),
    do
      let _ ← word "except"
      let _ ← mark "*"
      let _ ← satisfy fun t => t.kind == .newline || isMark ":" t
      raiseHere (.other "expected one or more exception types")]

def plainHandler (rs : Readers) : Reader (Handler Empty) := do
  let t ← peek
  let title := "'except' statement"
  firstOf [
    explaining do
      let _ ← handlerType rs.exprs false
      let _ ← mark ":"
      missingBlock title t.start.line,
    explaining do
      let _ ← word "except"
      let _ ← mark ":"
      missingBlock title t.start.line,
    do
      let (e, n) ← handlerType rs.exprs false
      return .mk t.start (some e) n (← suite rs),
    do
      let _ ← word "except"
      return .mk t.start none none (← suite rs),
    explaining (mistakenHandler rs.exprs)]

def starHandler (rs : Readers) : Reader (Handler Empty) := do
  let t ← peek
  firstOf [
    explaining do
      let _ ← handlerType rs.exprs true
      let _ ← mark ":"
      missingBlock "'except*' statement" t.start.line,
    do
      let (e, n) ← handlerType rs.exprs true
      return .mk t.start (some e) n (← suite rs),
    explaining (mistakenHandler rs.exprs)]

def finallyBlock (rs : Readers) : Reader (List (Stmt Empty)) := do
  let t ← peek
  firstOf [
    explaining do
      let _ ← word "finally"
      let _ ← mark ":"
      missingBlock "'finally' statement" t.start.line,
    do
      let _ ← word "finally"
      neededSuite rs]

/-- Mistakes in a `try` statement. -/
def mistakenTry (rs : Readers) : Reader (Stmt Empty) := do
  let t ← peek
  let opened : Reader Unit := do
    let _ ← word "try"
    discard (mark ":")
  let mixed := FaultKind.other "cannot have both 'except' and 'except*' on the same 'try'"
  firstOf [
    do
      opened
      missingBlock "'try' statement" t.start.line,
    do
      opened
      let _ ← block rs
      notFollowedBy (satisfy fun t => isWord "except" t || isWord "finally" t)
      raiseHere (.other "expected 'except' or 'finally' block"),
    do
      opened
      let _ ← many (block rs)
      let _ ← manyOne (plainHandler rs)
      let t ← word "except"
      let _ ← mark "*"
      let _ ← expression rs.exprs
      let _ ← optional do
        let _ ← word "as"
        name
      let _ ← mark ":"
      raise mixed t,
    do
      opened
      let _ ← many (block rs)
      let _ ← manyOne (starHandler rs)
      let t ← word "except"
      let _ ← optional do
        let _ ← expression rs.exprs
        optional do
          let _ ← word "as"
          name
      let _ ← mark ":"
      raise mixed t]

def tryStatement (rs : Readers) : Reader (Stmt Empty) := do
  let t ← peek
  let body : Reader (List (Stmt Empty)) := do
    let _ ← word "try"
    neededSuite rs
  let handled (star : Bool) (handler : Reader (Handler Empty)) : Reader (Stmt Empty) := do
    let b ← body
    let hs ← manyOne handler
    let o ← optionalElse rs
    let f ← optional (finallyBlock rs)
    return .attempt (← spanFrom t.start) star b hs o (f.getD [])
  firstOf [
    explaining (mistakenTry rs),
    do
      let b ← body
      let f ← finallyBlock rs
      return .attempt (← spanFrom t.start) false b [] [] f,
    handled false (plainHandler rs),
    handled true (starHandler rs)]

/-! ## Matching -/

/-- The subject of a `match` statement. -/
def matchSubject (r : Recur) : Reader Expr := do
  let start ← here
  firstOf [
    do
      let first ← starNamedExpression r
      let _ ← mark ","
      let rest ← optional (starNamedExpressions r)
      return .display start .tuple (first :: rest.getD []),
    namedExpression r]

def caseClause (rs : Readers) : Reader (Case Empty) := do
  let t ← peek
  let header : Reader (Pattern × Option Expr) := do
    let _ ← softWord "case"
    let p ← Pattern.top rs.pattern
    let guard ← optional do
      let _ ← word "if"
      namedExpression rs.exprs
    return (p, guard)
  firstOf [
    explaining (mistakenHeader header "'case' statement" t.start.line),
    do
      let (p, guard) ← header
      return .mk p guard (← suite rs)]

def matchStatement (rs : Readers) : Reader (Stmt Empty) := do
  let t ← peek
  let header : Reader Expr := do
    let _ ← softWord "match"
    matchSubject rs.exprs
  firstOf [
    do
      let subject ← header
      let _ ← mark ":"
      let _ ← newline
      let _ ← indentToken
      let cases ← manyOne (caseClause rs)
      let _ ← satisfy fun t => t.kind == .dedent
      return .select (← spanFrom t.start) subject cases,
    explaining (mistakenHeader header "'match' statement" t.start.line)]

/-! ## Definitions -/

/-- A function definition after its decorators. -/
def functionDefinition (rs : Readers) (decorators : List Expr) (firstLine : Option Nat) :
    Reader (Stmt Empty) := do
  let r := rs.exprs
  let start ← here
  let isAsync := (← optional (word "async")).isSome
  let t ← peek
  firstOf [
    explaining do
      let _ ← word "def"
      let _ ← name
      let _ ← mark "("
      let _ ← optional (params r .function)
      let _ ← mark ")"
      let _ ← optional do
        let _ ← mark "->"
        expression r
      let _ ← mark ":"
      missingBlock "function definition" t.start.line,
    do
      let _ ← word "def"
      let n ← name
      needMark "("
      let ps ← optional (params r .function)
      let _ ← mark ")"
      let returns ← optional do
        let _ ← mark "->"
        expression r
      let body ← neededSuite rs
      return .function (← spanFrom start)
        ⟨isAsync, n, ps.getD .empty, decorators, returns, firstLine.getD start.line⟩ body]

/-- A class definition after its decorators. -/
def classDefinition (rs : Readers) (decorators : List Expr) : Reader (Stmt Empty) := do
  let start ← here
  let header : Reader (String × CallArguments) := do
    let _ ← word "class"
    let n ← name
    let as ← optional do
      let _ ← mark "("
      let as ← optional (arguments rs.exprs)
      let _ ← mark ")"
      return as.getD .empty
    return (n, as.getD .empty)
  firstOf [
    explaining (mistakenHeader header "class definition" start.line),
    do
      let (n, as) ← header
      let body ← suite rs
      return .klass (← spanFrom start) ⟨n, as.positional, as.keywords, decorators⟩ body]

/-- The decorators in front of a definition. -/
def decorators (r : Recur) : Reader (List Expr) := manyOne do
  let _ ← mark "@"
  let e ← namedExpression r
  let _ ← newline
  return e

/-- A definition, with the decorators in front of it. -/
def decorated (rs : Readers)
    (definition : List Expr → Option Nat → Reader (Stmt Empty)) : Reader (Stmt Empty) := do
  let line := (← peek).start.line
  orElse (do
    let ds ← decorators rs.exprs
    definition ds (some line))
    (definition [] none)

/-! ## Statements -/

/-- A compound statement. -/
def compoundStatement (rs : Readers) : Reader (List (Stmt Empty)) := do
  let t ← peek
  let isOneOf (ws : List String) : Bool := ws.any fun w => isWord w t
  let when (b : Bool) (p : Reader (Stmt Empty)) : Reader (List (Stmt Empty)) :=
    if b then (do return [← p]) else fail
  firstOf [
    when (isOneOf ["def", "async"] || isMark "@" t) (decorated rs (functionDefinition rs)),
    if isWord "if" t then ifStatement rs else fail,
    when (isWord "class" t || isMark "@" t) (decorated rs fun ds _ => classDefinition rs ds),
    when (isOneOf ["with", "async"]) (withStatement rs),
    when (isOneOf ["for", "async"]) (forStatement rs),
    when (isWord "try" t) (tryStatement rs),
    when (isWord "while" t) (whileStatement rs),
    when true (matchStatement rs)]

/-- One compound statement, or the simple statements of one line. -/
def statement (rs : Readers) : Reader (List (Stmt Empty)) :=
  orElse (compoundStatement rs) (simpleStatements rs)

/-- Reads a statement, with a bound on the depth of nesting. -/
def statementAt (r : Recur) (p : Reader Pattern) (size : Nat) : Nat → Reader (List (Stmt Empty))
  | 0 => fail
  | depth + 1 => statement ⟨r, p, statementAt r p size depth, size⟩

end JumpMacros
