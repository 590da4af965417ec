import JumpMacros.Tree.ExprText

/-!
# Annotations as text

A module can ask for its annotations to be kept as texts. The text is close to that of expressions
elsewhere, with levels used in the same way, but its own in details: all operands of `and` and `or`
need the same level, a lone generator brings the parentheses of its call, a `yield` always has
parentheses, and a formatted string is the quoted form of its body.
-/

namespace JumpMacros

open Text

mutual

/-- The text of an annotation, or of a part of it, at a place that requires a level. -/
def Expr.noteText (required : Level) : Expr → String
  | .name _ id _ => id
  | .const _ c => c.text false
  | .fstring _ ps => "f" ++ quotedPoints (Piece.notePoints ps)
  | .attr _ v a =>
    let gap := match v with
      | .const _ (.int _) => " "
      | _ => ""
    v.noteText .atom ++ gap ++ "." ++ a
  | .subscript _ v i => v.noteText .atom ++ "[" ++ i.noteText .tuple ++ "]"
  | .starred _ v => "*" ++ v.noteText .bitOr
  | .call _ f as ks =>
    let isLoneGenerator := match as, ks with
      | [.comprehension _ .generator _ _], [] => true
      | _, _ => false
    let args := ", ".intercalate (Expr.noteTexts as ++ Keyword.noteTexts ks)
    f.noteText .atom ++ parenthesised (!isLoneGenerator) args
  | .unary _ op e => parenthesised (op.level < required) (op.text ++ e.noteText op.level)
  | .binary _ op l r =>
    let (left, right) := op.operandLevels
    parenthesised (op.level < required)
      (l.noteText left ++ " " ++ op.text ++ " " ++ r.noteText right)
  | .boolean _ op es =>
    parenthesised (op.level < required)
      ((" " ++ op.text ++ " ").intercalate (Expr.operandNotes op.level.next es))
  | .compare _ l cs =>
    parenthesised (Level.compare < required)
      (l.noteText Level.compare.next ++ Comparand.noteText cs)
  | .conditional _ t b o =>
    parenthesised (Level.test < required)
      (b.noteText .or ++ " if " ++ t.noteText .or ++ " else " ++ o.noteText .test)
  | .lambda _ ps b =>
    parenthesised (Level.test < required)
      ("lambda" ++ (if ps.hasPositional then " " else "") ++ ps.noteText ++ ": " ++
        b.noteText .test)
  | .display _ .tuple es =>
    parenthesised (es.isEmpty || Level.tuple < required) (tupleItems (Expr.noteTexts es))
  | .display _ .list es => "[" ++ ", ".intercalate (Expr.noteTexts es) ++ "]"
  | .display _ .set es => "\x7b" ++ ", ".intercalate (Expr.noteTexts es) ++ "\x7d"
  | .dict _ es => "\x7b" ++ ", ".intercalate (Entry.noteTexts es) ++ "\x7d"
  | .comprehension _ kind e cs =>
    let inner := e.noteText .test ++ Clause.noteText cs
    match kind with
    | .list => "[" ++ inner ++ "]"
    | .set => "\x7b" ++ inner ++ "\x7d"
    | .generator => "(" ++ inner ++ ")"
  | .dictComprehension _ k v cs =>
    "\x7b" ++ k.noteText .test ++ ": " ++ v.noteText .test ++ Clause.noteText cs ++ "\x7d"
  | .await _ v => parenthesised (Level.await < required) ("await " ++ v.noteText .atom)
  | .yield _ v => "(yield" ++ optionNote " " v ++ ")"
  | .yieldFrom _ v => "(yield from " ++ v.noteText .test ++ ")"
  | .named _ t v =>
    parenthesised (Level.tuple < required) (t.noteText .atom ++ " := " ++ v.noteText .atom)
  | .slice _ l u s => optionNote "" l ++ ":" ++ optionNote "" u ++ optionNote ":" s

def Expr.noteTexts : List Expr → List String
  | [] => []
  | e :: es => e.noteText .test :: Expr.noteTexts es

/-- The operands of a chain of `and` or `or`. -/
def Expr.operandNotes (required : Level) : List Expr → List String
  | [] => []
  | e :: es => e.noteText required :: Expr.operandNotes required es

def optionNote (lead : String) : Option Expr → String
  | none => ""
  | some e => lead ++ e.noteText .test

def Keyword.noteTexts : List Keyword → List String
  | [] => []
  | .mk _ none v :: ks => ("**" ++ v.noteText .test) :: Keyword.noteTexts ks
  | .mk _ (some n) v :: ks => (n ++ "=" ++ v.noteText .test) :: Keyword.noteTexts ks

def Comparand.noteText : List Comparand → String
  | [] => ""
  | .mk op e :: cs =>
    " " ++ op.text ++ " " ++ e.noteText Level.compare.next ++ Comparand.noteText cs

def Param.noteText : Param → String
  | .mk _ n note d => n ++ optionNote ": " note ++ optionNote "=" d

def Param.noteTexts : List Param → List String
  | [] => []
  | p :: ps => p.noteText :: Param.noteTexts ps

def Param.optionNotes (lead : String) : Option Param → List String
  | none => []
  | some p => [lead ++ p.noteText]

def Params.noteText : Params → String
  | .mk po ps rest ko kr =>
    let slash := if po.isEmpty then [] else ["/"]
    let star := if rest.isNone && !ko.isEmpty then ["*"] else Param.optionNotes "*" rest
    ", ".intercalate
      (Param.noteTexts po ++ slash ++ Param.noteTexts ps ++ star ++ Param.noteTexts ko ++
        Param.optionNotes "**" kr)

def Entry.noteTexts : List Entry → List String
  | [] => []
  | .pair k v :: es => (k.noteText .test ++ ": " ++ v.noteText .test) :: Entry.noteTexts es
  | .spread v :: es => ("**" ++ v.noteText .bitOr) :: Entry.noteTexts es

def Clause.noteText : List Clause → String
  | [] => ""
  | .mk isAsync t i conds :: cs =>
    (if isAsync then " async for " else " for ") ++ t.noteText .tuple ++ " in " ++
      i.noteText .or ++ String.join ((Expr.operandNotes .or conds).map (" if " ++ ·)) ++
      Clause.noteText cs

/-- The code points of the body of a formatted string. -/
def Piece.notePoints : List Piece → List Nat
  | [] => []
  | .text v :: ps => doubledBraces v.toList ++ Piece.notePoints ps
  | .field v conv format :: ps =>
    let inner := v.noteText .or
    let gap := if inner.toList.head? == some '\x7b' then " " else ""
    let mark := match conv with
      | none => ""
      | some c => "!" ++ String.singleton c
    codePoints ("\x7b" ++ gap ++ inner ++ mark) ++ Piece.noteFormat format ++ [0x7d] ++
      Piece.notePoints ps

def Piece.noteFormat : Option (List Piece) → List Nat
  | none => []
  | some ps => 0x3a :: Piece.notePoints ps

end

/-- The text that an annotation is kept as. -/
def Expr.note (e : Expr) : String := e.noteText .test

end JumpMacros
