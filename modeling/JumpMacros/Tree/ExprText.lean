import JumpMacros.Tree.Literal

/-!
# Expressions as text

Each expression has a level, the higher the tighter it binds, and stands at a place that requires
a level; it is put between parentheses when its own level is below the required one. The default
requirement is `Level.test`.
-/

namespace JumpMacros

open Text

/-- How tightly an expression binds. -/
abbrev Level := Nat

namespace Level

def named : Level := 1
def tuple : Level := 2
def yield : Level := 3
def test : Level := 4
def or : Level := 5
def and : Level := 6
def not : Level := 7
def compare : Level := 8
def bitOr : Level := 9
def bitXor : Level := 10
def bitAnd : Level := 11
def shift : Level := 12
def arith : Level := 13
def term : Level := 14
def factor : Level := 15
def power : Level := 16
def await : Level := 17
def atom : Level := 18

/-- The next level; there is none above `atom`. -/
def next (l : Level) : Level := min (l + 1) atom

end Level

namespace UnaryOp

def text : UnaryOp → String
  | .invert => "~"
  | .not => "not "
  | .plus => "+"
  | .minus => "-"

def level : UnaryOp → Level
  | .not => .not
  | _ => .factor

end UnaryOp

namespace BinaryOp

def text : BinaryOp → String
  | .add => "+"
  | .sub => "-"
  | .mul => "*"
  | .matMul => "@"
  | .div => "/"
  | .mod => "%"
  | .floorDiv => "//"
  | .pow => "**"
  | .shiftLeft => "<<"
  | .shiftRight => ">>"
  | .bitOr => "|"
  | .bitXor => "^"
  | .bitAnd => "&"

def level : BinaryOp → Level
  | .add | .sub => .arith
  | .mul | .matMul | .div | .mod | .floorDiv => .term
  | .pow => .power
  | .shiftLeft | .shiftRight => .shift
  | .bitOr => .bitOr
  | .bitXor => .bitXor
  | .bitAnd => .bitAnd

/-- The levels required of the operands: the operand on the side to which the operator does not
associate needs the next one. -/
def operandLevels (op : BinaryOp) : Level × Level :=
  match op with
  | .pow => (Level.next op.level, op.level)
  | _ => (op.level, Level.next op.level)

end BinaryOp

namespace BoolOp

def text : BoolOp → String
  | .and => "and"
  | .or => "or"

def level : BoolOp → Level
  | .and => .and
  | .or => .or

end BoolOp

def CompareOp.text : CompareOp → String
  | .eq => "=="
  | .notEq => "!="
  | .lt => "<"
  | .ltEq => "<="
  | .gt => ">"
  | .gtEq => ">="
  | .is => "is"
  | .isNot => "is not"
  | .isIn => "in"
  | .notIn => "not in"

/-- Puts parentheses around a text if asked to. -/
def parenthesised (needed : Bool) (s : String) : String := if needed then "(" ++ s ++ ")" else s

/-- Items separated by commas; a single item is followed by one. -/
def tupleItems : List String → String
  | [x] => x ++ ","
  | xs => ", ".intercalate xs

/-- The code points of a text. -/
def codePoints (s : String) : List Nat := s.toList.map Char.toNat

/-- Literal text of a formatted string, with its braces doubled. -/
def doubledBraces (cs : List Nat) : List Nat :=
  cs.flatMap fun c => if c == 0x7b || c == 0x7d then [c, c] else [c]

/-- A part of a formatted string: its code points, and whether it is literal text. -/
abbrev FormattedPart := List Nat × Bool

/-- Writes the parts one after the other, each in the quotes that suited all parts before; gives
the bodies and the quotes that are left, the best ones first. -/
def formattedParts (quotes : List String) : List FormattedPart → List String × List String
  | [] => ([], quotes)
  | (cs, isText) :: rest =>
    let (body, free) := literalBody quotes isText cs
    let (bodies, left) := formattedParts free rest
    (body :: bodies, left)

/-- A formatted string, in the best quotes that are left by its parts. -/
def formattedString (parts : List FormattedPart) : String :=
  let (bodies, quotes) := formattedParts allQuotes parts
  let quote := quotes.headD "'"
  "f" ++ quote ++ String.join bodies ++ quote

/-- The level required of a subscript's index: a tuple needs no parentheses there. -/
def Expr.indexLevel : Expr → Level
  | .display _ .tuple _ => .tuple
  | _ => .test

mutual

/-- The text of an expression at a place that requires a level. With `avoid`, string literals
avoid escapes. -/
def Expr.text (avoid : Bool) (required : Level) : Expr → String
  | .name _ id _ => id
  | .const _ c => c.text avoid
  | .fstring _ ps =>
    if avoid then "f" ++ literalIn allQuotes ((Piece.parts ps).flatMap Prod.fst)
    else formattedString (Piece.parts ps)
  | .attr _ v a =>
    let gap := match v with
      | .const _ c => if c.isIntegral then " " else ""
      | _ => ""
    v.text avoid .atom ++ gap ++ "." ++ a
  | .subscript _ v i =>
    v.text avoid .atom ++ "[" ++ i.text avoid i.indexLevel ++ "]"
  | .starred _ v => "*" ++ v.text avoid .bitOr
  | .call _ f as ks =>
    f.text avoid .atom ++ "(" ++
      ", ".intercalate (Expr.texts avoid .test as ++ Keyword.texts avoid ks) ++ ")"
  | .unary _ op e => parenthesised (op.level < required) (op.text ++ e.text avoid op.level)
  | .binary _ op l r =>
    let (left, right) := op.operandLevels
    parenthesised (op.level < required)
      (l.text avoid left ++ " " ++ op.text ++ " " ++ r.text avoid right)
  | .boolean _ op es =>
    parenthesised (op.level < required)
      ((" " ++ op.text ++ " ").intercalate (Expr.risingTexts avoid op.level.next es))
  | .compare _ l cs =>
    parenthesised (Level.compare < required)
      (l.text avoid Level.compare.next ++ Comparand.text avoid cs)
  | .conditional _ t b o =>
    parenthesised (Level.test < required)
      (b.text avoid .or ++ " if " ++ t.text avoid .or ++ " else " ++ o.text avoid .test)
  | .lambda _ ps b =>
    let params := ps.text avoid
    parenthesised (Level.test < required)
      ("lambda" ++ (if params.isEmpty then "" else " " ++ params) ++ ": " ++ b.text avoid .test)
  | .display _ .tuple es =>
    parenthesised (es.isEmpty || Level.tuple < required) (tupleItems (Expr.texts avoid .test es))
  | .display _ .list es => "[" ++ ", ".intercalate (Expr.texts avoid .test es) ++ "]"
  | .display _ .set es =>
    if es.isEmpty then "\x7b*()\x7d"
    else "\x7b" ++ ", ".intercalate (Expr.texts avoid .test es) ++ "\x7d"
  | .dict _ es => "\x7b" ++ ", ".intercalate (Entry.texts avoid es) ++ "\x7d"
  | .comprehension _ kind e cs =>
    let inner := e.text avoid .test ++ Clause.text avoid cs
    match kind with
    | .list => "[" ++ inner ++ "]"
    | .set => "\x7b" ++ inner ++ "\x7d"
    | .generator => "(" ++ inner ++ ")"
  | .dictComprehension _ k v cs =>
    "\x7b" ++ k.text avoid .test ++ ": " ++ v.text avoid .test ++ Clause.text avoid cs ++ "\x7d"
  | .await _ v => parenthesised (Level.await < required) ("await " ++ v.text avoid .atom)
  | .yield _ v => parenthesised (Level.yield < required) ("yield" ++ optionText avoid " " .atom v)
  | .yieldFrom _ v => parenthesised (Level.yield < required) ("yield from " ++ v.text avoid .atom)
  | .named _ t v =>
    parenthesised (Level.named < required) (t.text avoid .atom ++ " := " ++ v.text avoid .atom)
  | .slice _ l u s =>
    optionText avoid "" .test l ++ ":" ++ optionText avoid "" .test u ++
      optionText avoid ":" .test s

def Expr.texts (avoid : Bool) (required : Level) : List Expr → List String
  | [] => []
  | e :: es => e.text avoid required :: Expr.texts avoid required es

/-- The operands of a chain of `and` or `or`: each needs a higher level than the one before. -/
def Expr.risingTexts (avoid : Bool) (required : Level) : List Expr → List String
  | [] => []
  | e :: es => e.text avoid required :: Expr.risingTexts avoid required.next es

/-- An optional expression after a lead-in text. -/
def optionText (avoid : Bool) (lead : String) (required : Level) : Option Expr → String
  | none => ""
  | some e => lead ++ e.text avoid required

def Keyword.texts (avoid : Bool) : List Keyword → List String
  | [] => []
  | .mk _ none v :: ks => ("**" ++ v.text avoid .test) :: Keyword.texts avoid ks
  | .mk _ (some n) v :: ks => (n ++ "=" ++ v.text avoid .test) :: Keyword.texts avoid ks

def Comparand.text (avoid : Bool) : List Comparand → String
  | [] => ""
  | .mk op e :: cs =>
    " " ++ op.text ++ " " ++ e.text avoid Level.compare.next ++ Comparand.text avoid cs

def Param.text (avoid : Bool) : Param → String
  | .mk _ n note d => n ++ optionText avoid ": " .test note ++ optionText avoid "=" .test d

def Param.texts (avoid : Bool) : List Param → List String
  | [] => []
  | p :: ps => p.text avoid :: Param.texts avoid ps

def Param.optionTexts (avoid : Bool) (lead : String) : Option Param → List String
  | none => []
  | some p => [lead ++ p.text avoid]

/-- A parameter list: a slash ends the positional-only parameters, and a lone star stands before
keyword-only ones if no parameter takes the rest. -/
def Params.text (avoid : Bool) : Params → String
  | .mk po ps rest ko kr =>
    let slash := if po.isEmpty then [] else ["/"]
    let star := if rest.isNone && !ko.isEmpty then ["*"] else Param.optionTexts avoid "*" rest
    ", ".intercalate
      (Param.texts avoid po ++ slash ++ Param.texts avoid ps ++ star ++ Param.texts avoid ko ++
        Param.optionTexts avoid "**" kr)

def Entry.texts (avoid : Bool) : List Entry → List String
  | [] => []
  | .pair k v :: es => (k.text avoid .test ++ ": " ++ v.text avoid .test) :: Entry.texts avoid es
  | .spread v :: es => ("**" ++ v.text avoid .bitOr) :: Entry.texts avoid es

def Clause.text (avoid : Bool) : List Clause → String
  | [] => ""
  | .mk isAsync t i conds :: cs =>
    (if isAsync then " async for " else " for ") ++ t.text avoid .tuple ++ " in " ++
      i.text avoid .or ++ String.join ((Expr.texts avoid .or conds).map (" if " ++ ·)) ++
      Clause.text avoid cs

/-- The parts of a formatted string. A field's expression avoids escapes, and one that starts
with a brace is set off by a blank. -/
def Piece.parts : List Piece → List FormattedPart
  | [] => []
  | .text v :: ps => (doubledBraces v.toList, true) :: Piece.parts ps
  | .field v conv format :: ps =>
    let inner := v.text true .or
    let gap := if inner.toList.head? == some '\x7b' then " " else ""
    let mark := match conv with
      | none => ""
      | some c => "!" ++ String.singleton c
    (codePoints ("\x7b" ++ gap ++ inner ++ mark) ++ Piece.formatPoints format ++ [0x7d], false) ::
      Piece.parts ps

/-- The format of a field, after its colon. -/
def Piece.formatPoints : Option (List Piece) → List Nat
  | none => []
  | some ps => 0x3a :: (Piece.parts ps).flatMap Prod.fst

end

mutual

/-- The text of a pattern. -/
def Pattern.text (required : Level) : Pattern → String
  | .value _ e => e.text false .test
  | .singleton _ c => c.text false
  | .sequence _ ps => "[" ++ ", ".intercalate (Pattern.texts .test ps) ++ "]"
  | .mapping _ ks ps rest =>
    let pairs := List.zipWith (fun k p => k ++ ": " ++ p) (Expr.texts false .test ks)
      (Pattern.texts .test ps)
    "\x7b" ++ ", ".intercalate (pairs ++ (rest.map ("**" ++ ·)).toList) ++ "\x7d"
  | .klass _ c ps ns qs =>
    c.text false .atom ++ "(" ++
      ", ".intercalate (Pattern.texts .test ps ++
        List.zipWith (fun n q => n ++ "=" ++ q) ns (Pattern.texts .test qs)) ++ ")"
  | .star _ n => "*" ++ n.getD "_"
  | .capture _ n => n.getD "_"
  | .named _ p n => parenthesised (Level.test < required) (p.text .bitOr ++ " as " ++ n)
  | .alternatives _ ps =>
    parenthesised (Level.bitOr < required)
      (" | ".intercalate (Pattern.texts Level.bitOr.next ps))

def Pattern.texts (required : Level) : List Pattern → List String
  | [] => []
  | p :: ps => p.text required :: Pattern.texts required ps

end

end JumpMacros
