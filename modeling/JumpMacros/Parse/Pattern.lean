import JumpMacros.Parse.Expr

/-!
# Reading patterns

The patterns of `case` clauses. Patterns nest only inside brackets, so as for expressions the
length of the text bounds the depth.
-/

namespace JumpMacros

open Reader

namespace Pattern

/-! ## Literals and names -/

/-- A number that may have a minus sign. -/
def signedNumber : Reader Expr := do
  let t ← peek
  match ← optional (mark "-") with
  | some _ => return .unary t.start .minus (← numberLiteral)
  | none => numberLiteral

/-- Whether a number is imaginary. -/
def isImaginary : Expr → Bool
  | .const _ (.imaginary _) => true
  | .unary _ _ (.const _ (.imaginary _)) => true
  | _ => false

/-- A real number, which may have a minus sign, and an imaginary one. -/
def complexNumber : Reader Expr := do
  let start ← here
  let minus ← optional (mark "-")
  let re ← numberLiteral
  if isImaginary re then raiseAt (.other "real number required in complex literal") re.pos
  let re := match minus with
    | some t => Expr.unary t.start .minus re
    | none => re
  let t ← anyMark ["+", "-"]
  let im ← numberLiteral
  if !isImaginary im then raiseAt (.other "imaginary number required in complex literal") im.pos
  return .binary start (if isMark "+" t then .add else .sub) re im

/-- The value of a literal. -/
def literalValue (r : Recur) : Reader Expr :=
  firstOf [
    do
      let e ← signedNumber
      notFollowedBy (anyMark ["+", "-"])
      return e,
    complexNumber,
    stringLiterals r]

/-- A constant word. -/
def constant : Reader (Constant × Position) := do
  let t ← advance
  match t.kind with
  | .word w =>
    match constantWord w with
    | some c => return (c, t.start)
    | none => fail
  | _ => fail

/-- What must not follow a name that stands for itself. -/
def nameGoesOn : Reader Token := anyMark [".", "(", "="]

/-- A name for what is matched; the underscore is none. -/
def captureTarget : Reader String := do
  notFollowedBy (softWord "_")
  let n ← name
  notFollowedBy nameGoesOn
  return n

/-- A name with at least one member name, as many as there are. -/
def member : Reader Expr := do
  let (id, p) ← placedName
  let step (e : Expr) : Reader Expr := do
    let _ ← mark "."
    return .attr p e (← name)
  let first ← step (.name p id .load)
  extend step (← left) first

/-- A name, with member names if there are any. -/
def nameOrMember : Reader Expr := orElse member (boundName .load)

/-! ## Sequences -/

/-- A name, or the underscore, after a star. -/
def starPattern : Reader Pattern := do
  let t ← mark "*"
  firstOf [
    do return .star t.start (some (← captureTarget)),
    do
      let _ ← softWord "_"
      return .star t.start none]

def sequenceItem (p : Reader Pattern) : Reader Pattern := orElse starPattern p

/-- The items of a sequence. -/
def sequenceItems (p : Reader Pattern) : Reader (List Pattern) := do
  let ps ← separated "," (sequenceItem p)
  let _ ← optional (mark ",")
  return ps

/-- The items of a sequence without brackets, which has a comma. -/
def openItems (p : Reader Pattern) : Reader (List Pattern) := do
  let first ← sequenceItem p
  let _ ← mark ","
  return first :: (← optional (sequenceItems p)).getD []

def sequencePattern (p : Reader Pattern) : Reader Pattern :=
  firstOf [
    do
      let t ← mark "["
      let ps ← optional (sequenceItems p)
      let _ ← mark "]"
      return .sequence t.start (ps.getD []),
    do
      let t ← mark "("
      let ps ← optional (openItems p)
      let _ ← mark ")"
      return .sequence t.start (ps.getD [])]

/-! ## Mappings and classes -/

/-- A key with its pattern. -/
def keyPattern (r : Recur) (p : Reader Pattern) : Reader (Expr × Pattern) := do
  let key ← firstOf [literalValue r, (do
    let (c, pos) ← constant
    return .const pos c), member]
  let _ ← mark ":"
  return (key, ← p)

/-- The name for the rest of a mapping. -/
def restTarget : Reader String := do
  let _ ← mark "**"
  captureTarget

def mappingPattern (r : Recur) (p : Reader Pattern) : Reader Pattern := do
  let t ← mark "\x7b"
  let done (items : List (Expr × Pattern)) (rest : Option String) : Pattern :=
    .mapping t.start (items.map Prod.fst) (items.map Prod.snd) rest
  firstOf [
    do
      let _ ← mark "\x7d"
      return done [] none,
    do
      let n ← restTarget
      let _ ← optional (mark ",")
      let _ ← mark "\x7d"
      return done [] (some n),
    do
      let items ← separated "," (keyPattern r p)
      let _ ← mark ","
      let n ← restTarget
      let _ ← optional (mark ",")
      let _ ← mark "\x7d"
      return done items (some n),
    do
      let items ← separated "," (keyPattern r p)
      let _ ← optional (mark ",")
      let _ ← mark "\x7d"
      return done items none]

/-- A pattern for an attribute. -/
def keyword (p : Reader Pattern) : Reader (String × Pattern) := do
  let n ← name
  let _ ← mark "="
  return (n, ← p)

/-- A positional pattern after one for an attribute. -/
def mistakenOrder (p : Reader Pattern) : Reader Pattern := do
  let _ ← nameOrMember
  let _ ← mark "("
  let _ ← optional do
    let _ ← separated "," p
    mark ","
  let _ ← separated "," (keyword p)
  let _ ← mark ","
  let late ← separated "," p
  let place := (late.head?.map Pattern.pos).getD default
  raiseAt (.other "positional patterns follow keyword patterns") place

def classPattern (p : Reader Pattern) : Reader Pattern := do
  let start ← here
  let done (cls : Expr) (ps : List Pattern) (ks : List (String × Pattern)) : Pattern :=
    .klass start cls ps (ks.map Prod.fst) (ks.map Prod.snd)
  let opened : Reader Expr := do
    let cls ← nameOrMember
    let _ ← mark "("
    return cls
  let close : Reader Unit := do
    let _ ← optional (mark ",")
    discard (mark ")")
  firstOf [
    do
      let cls ← opened
      let _ ← mark ")"
      return done cls [] [],
    do
      let cls ← opened
      let ps ← separated "," p
      close
      return done cls ps [],
    do
      let cls ← opened
      let ks ← separated "," (keyword p)
      close
      return done cls [] ks,
    do
      let cls ← opened
      let ps ← separated "," p
      let _ ← mark ","
      let ks ← separated "," (keyword p)
      close
      return done cls ps ks,
    explaining (mistakenOrder p)]

/-! ## Whole patterns -/

/-- A pattern without alternatives; `p` reads the patterns inside brackets. -/
def closed (r : Recur) (p : Reader Pattern) : Reader Pattern := rememberedPattern do
  let start ← here
  firstOf [
    do return .value start (← literalValue r),
    do return .singleton start (← constant).1,
    do return .capture start (some (← captureTarget)),
    do
      let _ ← softWord "_"
      return .capture start none,
    do
      let e ← member
      notFollowedBy nameGoesOn
      return .value start e,
    do
      let _ ← mark "("
      let q ← p
      let _ ← mark ")"
      return q,
    sequencePattern p,
    mappingPattern r p,
    classPattern p]

/-- Alternatives separated by bars. -/
def alternation (r : Recur) (p : Reader Pattern) : Reader Pattern := do
  let start ← here
  match ← separated "|" (closed r p) with
  | [q] => return q
  | qs => return .alternatives start qs

/-- A pattern, perhaps with a name for what it matched. -/
def withName (r : Recur) (p : Reader Pattern) : Reader Pattern := do
  let start ← here
  let q ← alternation r p
  firstOf [
    do
      let _ ← word "as"
      return .named start q (← captureTarget),
    explaining do
      let _ ← word "as"
      let t ← softWord "_"
      raise (.other "cannot use '_' as a target") t,
    explaining do
      let _ ← word "as"
      notFollowedBy name
      let e ← r .expression
      raiseAt (.other "invalid pattern target") e.pos,
    pure q]

/-- Reads a pattern, with a bound on the depth of nesting. -/
def readAt (r : Recur) : Nat → Reader Pattern
  | 0 => fail
  | depth + 1 => withName r (readAt r depth)

/-- The pattern of a case: several patterns separated by commas are a sequence. -/
def top (p : Reader Pattern) : Reader Pattern := do
  let start ← here
  orElse (do return .sequence start (← openItems p)) p

end Pattern

end JumpMacros
