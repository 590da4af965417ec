import JumpMacros.Compile.Expr
import JumpMacros.Tree.Folded

/-!
# Refused patterns

What the compiler refuses in the pattern of a `case`: patterns that nothing can come after, names
that are bound twice or not by every alternative, keys and attributes that are given twice, and
literals that are no constants. What is refused is said to be at the innermost pattern that was
taken up last.
-/

namespace JumpMacros

open Decimal (Binary64)

/-! ## Keys -/

namespace Folded

/-- The text of a real number. -/
def realText (format : Decimal.NumberFormat) (x : Float) : String :=
  if x.isNaN then "nan"
  else
    let (m, q) := parts x
    let size := if x.isInf then "inf" else format.text (.finite m q)
    if x.toBits.toNat ≥ Nat.pow 2 63 then "-" ++ size else size

/-- The text of a number. A complex one has parentheses unless it is imaginary. -/
def numberText : Folded → Option String
  | .int n => some (toString n)
  | .real x => some (realText realFormat x)
  | .complex a b =>
    let im := realText imaginaryFormat b ++ "j"
    if a.toBits = 0 then some im
    else
      let sign := if im.startsWith "-" then "" else "+"
      some ("(" ++ realText imaginaryFormat a ++ sign ++ im ++ ")")
  | _ => none

/-- Whether two values are equal numbers. -/
def sameNumber : Folded → Folded → Bool
  | .int m, .int n => m = n
  | x, y =>
    match x.complex?, y.complex? with
    | some a, some b => a.1 == b.1 && a.2 == b.2
    | _, _ => false

end Folded

/-- A key of a pattern that is a constant. -/
inductive PatternKey where
  | number (value : Folded) (text : String)
  | constant (c : Constant)

namespace PatternKey

def ofExpr? (e : Expr) : Option PatternKey :=
  let number := e.folded?.bind fun v => v.numberText.map fun t => PatternKey.number v t
  match e with
  | .const _ (.bool b) => some (.number (.int (if b then 1 else 0)) (Constant.text false (.bool b)))
  | .const _ (.str s _) => some (.constant (.str s false))
  | .const _ c => some (number.getD (.constant c))
  | _ => number

def text : PatternKey → String
  | .number _ t => t
  | .constant c => c.text false

def same : PatternKey → PatternKey → Bool
  | .number x _, .number y _ => x.sameNumber y
  | .constant c, .constant d => c = d
  | _, _ => false

end PatternKey

/-- Refuses keys that are given twice, and those that are neither constants nor attributes. -/
def refuseKeys (c : Code) (place : Position) (seen : List PatternKey) :
    List Expr → Option Refused
  | [] => none
  | e :: es =>
    match PatternKey.ofExpr? e with
    | some k =>
      if seen.any (·.same k) then some ⟨.duplicateKey k.text, some place⟩
      else refuseKeys c place (k :: seen) es
    | none =>
      match e with
      | .attr _ _ _ => e.refused c .load false <|> refuseKeys c place seen es
      | _ => some ⟨.patternKey, some place⟩

/-! ## Patterns -/

/-- The pattern that was taken up last, and the names that are bound so far. -/
structure Matching where
  place : Position
  names : List String

abbrev Matcher := StateT Matching (Except Refused)

namespace Matcher

/-- Takes up a pattern. -/
def takeUp (p : Position) : Matcher Unit := modify fun m => { m with place := p }

def refuse {α : Type} (why : Refusal) : Matcher α := do throw ⟨why, some (← get).place⟩

/-- Refuses what has been found. -/
def check : Option Refused → Matcher Unit
  | some r => throw r
  | none => pure ()

/-- Binds a name. -/
def bind (name : String) : Matcher Unit := do
  let m ← get
  check (refuseDebug name .store (some m.place))
  if m.names.contains name then refuse (.captureTwice name)
  set { m with names := m.names ++ [name] }

/-- Refuses attributes that are given twice. -/
def attributes : List (String × Position) → Matcher Unit
  | [] => pure ()
  | (n, p) :: rest => do
    takeUp p
    check (refuseDebug n .store (some p))
    match rest.find? fun (k, _) => k == n with
    | some (_, q) =>
      takeUp q
      refuse (.repeatedAttribute n)
    | none => attributes rest

end Matcher

namespace Pattern

def isStar : Pattern → Bool
  | .star _ _ => true
  | _ => false

def isWildcard : Pattern → Bool
  | .capture _ none => true
  | _ => false

def isStarWildcard : Pattern → Bool
  | .star _ none => true
  | _ => false

/-- Whether the patterns of a sequence are all matched one by one. If not, wildcards are passed
over. -/
def isUnpacked (ps : List Pattern) : Bool := !ps.any isStarWildcard

/-- Whether the patterns of a sequence only tell its length. -/
def isLength (ps : List Pattern) : Bool := ps.all fun p => p.isWildcard || p.isStarWildcard

end Pattern

namespace Matcher

mutual

/-- Checks a pattern. `last` tells whether it may match everything. -/
def pattern (c : Code) (last : Bool) : Pattern → Matcher Unit
  | .value p e => do
    takeUp p
    match e with
    | .fstring _ _ => refuse .patternValue
    | e => check (e.refused c .load false)
  | .singleton p _ => takeUp p
  | .sequence p ps => do
    takeUp p
    if (ps.filter Pattern.isStar).length > 1 then refuse .starsInPattern
    if !Pattern.isLength ps then patterns c (!Pattern.isUnpacked ps) ps
  | .mapping p ks ps rest => do
    takeUp p
    check (refuseKeys c p [] ks)
    patterns c false ps
    rest.toList.forM bind
  | .klass p cls ps ns qs => do
    takeUp p
    attributes (ns.zip (qs.map Pattern.pos))
    takeUp p
    check (cls.refused c .load false)
    patterns c true ps
    patterns c true qs
  | .star p n => do
    takeUp p
    n.toList.forM bind
  | .capture p none => do
    takeUp p
    if !last then refuse .wildcardNotLast
  | .capture p (some n) => do
    takeUp p
    if !last then refuse (.captureNotLast n)
    bind n
  | .named p q n => do
    takeUp p
    pattern c last q
    bind n
  | .alternatives p ps => do
    takeUp p
    let before := (← get).names
    let names ← alternatives c last none ps
    modify fun m => { m with names := before }
    names.forM fun n => do
      if (← get).names.contains n then refuse (.captureTwice n)
      modify fun m => { m with names := m.names ++ [n] }

/-- Checks the patterns inside of another one, which may match everything. With `skips`, those that
bind nothing are passed over. -/
def patterns (c : Code) (skips : Bool) : List Pattern → Matcher Unit
  | [] => pure ()
  | p :: ps => do
    if !(skips && (p.isWildcard || p.isStarWildcard)) then pattern c true p
    patterns c skips ps

/-- Checks alternatives, all of which bind the names that the first one binds, and gives those. -/
def alternatives (c : Code) (last : Bool) (names : Option (List String)) :
    List Pattern → Matcher (List String)
  | [] => return names.getD []
  | p :: ps => do
    set (⟨p.pos, []⟩ : Matching)
    pattern c (last && ps.isEmpty) p
    let own := (← get).names
    let first := names.getD own
    if own.length ≠ first.length || !first.all own.contains then refuse .differentCaptures
    alternatives c last (some first) ps

end

end Matcher

/-- The first thing that is refused in the pattern of a case. -/
def Pattern.refused (c : Code) (last : Bool) (p : Pattern) : Option Refused :=
  match (Matcher.pattern c last p).run ⟨p.pos, []⟩ with
  | .error r => some r
  | .ok _ => none

end JumpMacros
