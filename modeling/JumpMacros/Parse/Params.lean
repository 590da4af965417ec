import JumpMacros.Parse.Goal

/-!
# Reading parameters

The parameters of functions and of lambdas. The two differ in what ends the list, in whether
parameters can be annotated, and in how a fault calls them.
-/

namespace JumpMacros

open Reader

/-- Where a parameter list stands. -/
inductive ParamStyle where
  | function
  | lambda
deriving DecidableEq

namespace ParamStyle

/-- The mark after the list. -/
def closer : ParamStyle → String
  | .function => ")"
  | .lambda => ":"

/-- What a fault calls the parameters. -/
def title : ParamStyle → String
  | .function => "Function"
  | .lambda => "Lambda expression"

end ParamStyle

/-- Parameters without those in front that are positional only. -/
structure ParamTail where
  rest : Option Param
  keywordOnly : List Param
  keywordRest : Option Param

namespace ParamTail

def empty : ParamTail := ⟨none, [], none⟩

/-- A whole parameter list. -/
def after (t : ParamTail) (positionalOnly positional : List Param) : Params :=
  .mk positionalOnly positional t.rest t.keywordOnly t.keywordRest

end ParamTail

/-! ## Single parameters -/

/-- A parameter without a default value. -/
def param (r : Recur) (style : ParamStyle) : Reader Param := do
  let (n, p) ← placedName
  match style with
  | .lambda => return .mk p n none none
  | .function =>
    let note ← optional do
      let _ ← mark ":"
      r .expression
    return .mk p n note none

/-- A parameter whose annotation has a star. -/
def starNotedParam (r : Recur) : Reader Param := do
  let (n, p) ← placedName
  let _ ← mark ":"
  let t ← mark "*"
  return .mk p n (some (.starred t.start (← r .bitOr))) none

/-- What must follow a parameter: a comma, or the end of the list. -/
def paramEnd (style : ParamStyle) : Reader Unit :=
  orElse (discard (mark ",")) (followedBy (mark style.closer))

def paramDefault (r : Recur) : Reader Expr :=
  orElse (do
    let _ ← mark "="
    r .expression)
  (explaining do
    let t ← mark "="
    followedBy (anyMark [")", ","])
    raise (.other "expected default value expression") t)

/-- A parameter with a default value that may be there. -/
def withDefault (p : Param) (d : Option Expr) : Param :=
  match p with
  | .mk pos n note _ => .mk pos n note d

def plainParam (r : Recur) (style : ParamStyle) : Reader Param := do
  let p ← param r style
  paramEnd style
  return p

def defaultParam (r : Recur) (style : ParamStyle) : Reader Param := do
  let p ← param r style
  let d ← paramDefault r
  paramEnd style
  return withDefault p (some d)

def anyParam (r : Recur) (style : ParamStyle) : Reader Param := do
  let p ← param r style
  let d ← optional (paramDefault r)
  paramEnd style
  return withDefault p d

/-! ## The end of a list -/

/-- The parameter for further keyword arguments. -/
def keywordRestParam (r : Recur) (style : ParamStyle) : Reader Param :=
  firstOf [
    explaining do
      let _ ← mark "**"
      let _ ← param r style
      let t ← mark "="
      raise (.other "var-keyword argument cannot have default value") t,
    explaining do
      let _ ← mark "**"
      let _ ← param r style
      let _ ← mark ","
      let p ← param r style
      raiseAt (.other "arguments cannot follow var-keyword argument") p.pos,
    explaining do
      let _ ← mark "**"
      let _ ← param r style
      let _ ← mark ","
      let t ← anyMark ["*", "**", "/"]
      raise (.other "arguments cannot follow var-keyword argument") t,
    do
      let _ ← mark "**"
      plainParam r style]

/-- The parameters after a star, when the one with the star is given. -/
def afterStar (r : Recur) (style : ParamStyle) (rest : Param) : Reader ParamTail := do
  let ks ← many (anyParam r style)
  return ⟨some rest, ks, ← optional (keywordRestParam r style)⟩

/-- Mistakes in what starts with a star. -/
def mistakenStar (r : Recur) (style : ParamStyle) : Reader ParamTail :=
  firstOf [
    do
      let t ← mark "*"
      let _ ← orElse (discard (mark style.closer)) do
        let _ ← mark ","
        discard (anyMark [style.closer, "**"])
      let kind := FaultKind.other "named arguments must follow bare *"
      if style = .function then raise kind t else raiseHere kind,
    do
      let _ ← mark "*"
      let _ ← param r style
      let t ← mark "="
      raise (.other "var-positional argument cannot have default value") t,
    do
      let single : Reader Unit := orElse (discard (plainParam r style)) (discard (mark ","))
      let _ ← mark "*"
      single
      let _ ← many (anyParam r style)
      let t ← mark "*"
      single
      raise (.other "* argument may appear only once") t]

/-- The parameters from the first star on. -/
def starParams (r : Recur) (style : ParamStyle) : Reader ParamTail :=
  firstOf [
    explaining (mistakenStar r style),
    do
      let _ ← mark "*"
      afterStar r style (← plainParam r style),
    do
      if style = .lambda then fail
      let _ ← mark "*"
      let p ← starNotedParam r
      paramEnd style
      afterStar r style p,
    do
      let _ ← mark "*"
      let _ ← mark ","
      let ks ← manyOne (anyParam r style)
      return ⟨none, ks, ← optional (keywordRestParam r style)⟩,
    do
      return ⟨none, [], some (← keywordRestParam r style)⟩]

/-! ## Whole lists -/

/-- What must follow a slash. -/
def slash (style : ParamStyle) : Reader Unit := do
  let _ ← mark "/"
  paramEnd style

def plainSlash (r : Recur) (style : ParamStyle) : Reader (List Param) := do
  let ps ← manyOne (plainParam r style)
  slash style
  return ps

def defaultSlash (r : Recur) (style : ParamStyle) : Reader (List Param) := do
  let ps ← many (plainParam r style)
  let ds ← manyOne (defaultParam r style)
  slash style
  return ps ++ ds

/-- Mistakes in parameter lists. -/
def mistakenParams (r : Recur) (style : ParamStyle) : Reader Params :=
  let anySlash : Reader Unit :=
    orElse (discard (plainSlash r style)) (discard (defaultSlash r style))
  firstOf [
    do
      let _ ← many (plainParam r style)
      orElse (discard (defaultSlash r style)) (discard (manyOne (defaultParam r style)))
      let p ← plainParam r style
      raiseAt (.other "non-default argument follows default argument") p.pos,
    do
      let _ ← many (plainParam r style)
      let t ← mark "("
      if style = .function then discard (manyOne (plainParam r style))
      else discard (separated "," (param r style))
      let _ ← optional (mark ",")
      let _ ← mark ")"
      raise (.other (style.title ++ " parameters cannot be parenthesized")) t,
    do
      let t ← mark "/"
      let _ ← mark ","
      raise (.other "at least one argument must precede /") t,
    do
      anySlash
      let _ ← many (anyParam r style)
      let t ← mark "/"
      raise (.other "/ may appear only once") t,
    do
      let _ ← optional anySlash
      let _ ← many (anyParam r style)
      let _ ← mark "*"
      orElse (discard (mark ",")) (discard (plainParam r style))
      let _ ← many (anyParam r style)
      let t ← mark "/"
      raise (.other "/ must be ahead of *") t,
    do
      let _ ← manyOne (anyParam r style)
      let _ ← mark "/"
      let t ← mark "*"
      raise (.other "expected comma between / and *") t]

/-- A parameter list that is not empty, up to what ends it. -/
def params (r : Recur) (style : ParamStyle) : Reader Params :=
  let tail : Reader ParamTail := return (← optional (starParams r style)).getD .empty
  firstOf [
    explaining (mistakenParams r style),
    do
      let po ← plainSlash r style
      let ps ← many (plainParam r style)
      let ds ← many (defaultParam r style)
      return (← tail).after po (ps ++ ds),
    do
      let po ← defaultSlash r style
      let ds ← many (defaultParam r style)
      return (← tail).after po ds,
    do
      let ps ← manyOne (plainParam r style)
      let ds ← many (defaultParam r style)
      return (← tail).after [] (ps ++ ds),
    do
      let ds ← manyOne (defaultParam r style)
      return (← tail).after [] ds,
    do
      return (← starParams r style).after [] []]

/-- A lambda. -/
def lambdaExpression (r : Recur) : Reader Expr := do
  let t ← word "lambda"
  let ps ← optional (params r .lambda)
  let _ ← mark ":"
  return .lambda t.start (ps.getD .empty) (← r .expression)

end JumpMacros
