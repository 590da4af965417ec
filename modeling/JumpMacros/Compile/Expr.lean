import JumpMacros.Compile.Future
import JumpMacros.Compile.Suspension

/-!
# Refused expressions

What the compiler refuses in an expression when it generates code for it: `yield` and `await` out
of place, stars where nothing is unpacked, keywords given twice, and assignments to `__debug__`.
Code is generated in the order of evaluation, except that the inside of a comprehension comes
before what its first clause iterates over.
-/

namespace JumpMacros

/-- What a piece of code belongs to. -/
inductive CodeKind where
  | module
  | klass
  | function
  | asyncFunction
  | lambda
  | comprehension
deriving DecidableEq, Repr

/-- Whether code is called, so that it can return and yield. -/
def CodeKind.isFunction : CodeKind → Bool
  | .module | .klass => false
  | _ => true

/-- Whether code can await. -/
def CodeKind.isAsync : CodeKind → Bool
  | .asyncFunction | .comprehension => true
  | _ => false

/-- The code that is being generated: what it belongs to, whether that is an asynchronous
generator, and the features of the module. -/
structure Code where
  kind : CodeKind
  isAsyncGenerator : Bool
  features : Features

/-- Code inside of this one. -/
def Code.inner (c : Code) (kind : CodeKind) : Code := ⟨kind, false, c.features⟩

/-- The name that is a literal and cannot be bound. -/
def debugName : String := "__debug__"

/-- Refuses to assign or delete the name that cannot be bound. -/
def refuseDebug (name : String) (use : NameUse) (place : Option Position) : Option Refused :=
  if name == debugName then
    match use with
    | .load => none
    | .store => some ⟨.debugAssigned, place⟩
    | .delete => some ⟨.debugDeleted, place⟩
  else none

/-- Refuses to bind one of some names that cannot be bound. -/
def refuseDebugs (names : List String) (place : Position) : Option Refused :=
  names.findSome? fun n => refuseDebug n .store (some place)

/-- Refuses keywords that cannot be bound or that are given twice. -/
def refuseKeywords (place : Position) : List Keyword → Option Refused
  | [] => none
  | .mk _ none _ :: ks => refuseKeywords place ks
  | .mk _ (some n) _ :: ks =>
    refuseDebug n .store (some place) <|>
      ((ks.find? fun k => k.name == some n).map fun k => ⟨.repeatedKeyword n, some k.pos⟩) <|>
      refuseKeywords place ks

/-- The most targets before a starred one. -/
def maxBeforeStar : Nat := 255

def Expr.isStarred : Expr → Bool
  | .starred _ _ => true
  | _ => false

/-- Refuses a list of targets with more than one star, or with a star too far behind. -/
def refuseStars (place : Position) (targets : List Expr) : Option Refused :=
  match targets.zipIdx.filter fun (e, _) => e.isStarred with
  | [] => none
  | (_, i) :: more =>
    if i > maxBeforeStar then some ⟨.starredLate, some place⟩
    else if more.isEmpty then none
    else some ⟨.starredTwice, some place⟩

namespace Expr

/-- Whether stars in an expression spread their items into it. -/
def spreads : Expr → Bool
  | .call _ _ _ _ | .display _ _ _ => true
  | _ => false

/-- How the parts of an expression are used if it is used in some way. -/
def partUse (use : NameUse) : Expr → NameUse
  | .display _ _ _ => use
  | .starred _ _ => use
  | _ => .load

/-- What is refused of an expression itself, before its parts. -/
def refusedBefore (c : Code) (use : NameUse) (spread : Bool) : Expr → Option Refused
  | .name p id u => refuseDebug id u (some p)
  | .starred p _ =>
    if spread then none
    else some ⟨if use = .store then .starredTarget else .starredExpression, some p⟩
  | .display p _ es => if use = .store then refuseStars p es else none
  | .lambda p ps _ => refuseDebugs ps.names p
  | .yield p _ => if c.kind.isFunction then none else some ⟨.yieldOutsideFunction, some p⟩
  | .yieldFrom p _ =>
    if !c.kind.isFunction then some ⟨.yieldOutsideFunction, some p⟩
    else if c.kind = .asyncFunction then some ⟨.yieldFromInAsync, some p⟩
    else none
  | .await p _ =>
    if !c.kind.isFunction then some ⟨.awaitOutsideFunction, some p⟩
    else if !c.kind.isAsync then some ⟨.awaitOutsideAsync, some p⟩
    else none
  | .call p _ _ ks => refuseKeywords p ks
  | e =>
    match e.form? with
    | some f =>
      if f != .generator && !c.kind.isAsync && e.runsAsync then
        some ⟨.asyncComprehension, some e.pos⟩
      else none
    | none => none

/-- What is refused of an expression itself, behind its parts. -/
def refusedAfter (use : NameUse) : Expr → Option Refused
  | .attr p _ m => if use = .store then refuseDebug m .store (some p) else none
  | _ => none

/-- The first thing that is refused in an expression. `use` tells what becomes of the expression,
and `spread` whether a star may stand in front of it. -/
def refused (c : Code) (use : NameUse) (spread : Bool) (e : Expr) : Option Refused :=
  let inside : Option Refused := match e with
    | .lambda _ ps b =>
      (ps.exprs.attach.findSome? fun x =>
        have := Params.sizeOf_lt x.2
        x.1.refused c .load false) <|>
      b.refused (c.inner .lambda) .load false
    | .named _ t v => v.refused c .load false <|> t.refused c .store false
    | e =>
      if e.form?.isSome then
        (e.comprehended.1.attach.findSome? fun x =>
          have := sizeOf_lt (mem_children_of_comprehended x.2)
          x.1.2.refused (c.inner .comprehension) x.1.1 false) <|>
        (e.comprehended.2.attach.findSome? fun x =>
          have := sizeOf_lt (mem_children_of_mem_outer x.2)
          x.1.refused c .load false)
      else
        e.children.attach.findSome? fun x =>
          have := sizeOf_lt x.2
          x.1.refused c (e.partUse use) e.spreads
  e.refusedBefore c use spread <|> inside <|> e.refusedAfter use
termination_by sizeOf e

end Expr

end JumpMacros
