import JumpMacros.Compile.Pattern

/-!
# Refused statements

What the compiler refuses in a statement when it generates code for it: jumps without a loop or
function to leave, jumps out of an `except*` handler, blocks nested too deeply, and what it
refuses in expressions and patterns. The check follows the order in which code is generated. The
`else` part of a `try` comes before its handlers. The `finally` part is generated for every way
into it: after the `try`, after an exception, and before that for every jump out of the `try`.

A jump leaves the open blocks from the inside out. Where it passes a context manager or a
`finally` part, code is generated that belongs to no place, and what is refused after that has no
place either.
-/

namespace JumpMacros

/-- What a jump leaves on its way: a loop, the handlers of the starred kind, a context manager, a
`try` whose `finally` part it runs through, or something it just leaves. `leave` says what is
refused in the `finally` part; its argument tells whether the jump carries a value. -/
inductive Block where
  | loop
  | starHandlers
  | manager
  | final (leave : Bool → Option Refused)
  | other

namespace Placement

/-! ## Jumps -/

/-- The most blocks that can be open. -/
def maxBlocks : Nat := 20

/-- What a jump runs into on its way out of the open blocks; else whether it found a loop. A jump
`toLoop` ends at the innermost loop. -/
def leave (toLoop carries : Bool) (place : Option Position) : List Block → Except Refused Bool
  | [] => .ok false
  | .loop :: bs => if toLoop then .ok true else leave toLoop carries place bs
  | .starHandlers :: _ => .error ⟨.jumpFromStarHandler, place⟩
  | .manager :: bs => leave toLoop carries none bs
  | .final check :: bs =>
    match check carries with
    | some m => .error m
    | none => leave toLoop carries none bs
  | .other :: bs => leave toLoop carries place bs

/-- Checks a jump to the innermost loop. -/
def jump (spot : Position) (blocks : List Block) (without : Refusal) : Option Refused :=
  match leave true false (some spot) blocks with
  | .error m => some m
  | .ok true => none
  | .ok false => some ⟨without, some spot⟩

/-- Checks a jump out of a function. A value that is folded is not carried; if it is on the line of
the statement, the jump is said to be where the value is. -/
def returning (c : Code) (spot : Position) (blocks : List Block) (value : Option Expr) :
    Option Refused :=
  if !c.kind.isFunction then some ⟨.returnOutsideFunction, some spot⟩
  else if c.isAsyncGenerator && value.isSome then some ⟨.valueInAsyncGenerator, some spot⟩
  else
    let isFolded := value.all fun e => e.folded?.isSome
    let place := match value with
      | some e => if isFolded && e.pos.line = spot.line then e.pos else spot
      | none => spot
    value.bind (·.refused c .load false) <|>
      match leave false (!isFolded) (some place) blocks with
      | .error m => some m
      | .ok _ => none

/-- Opens blocks, if there is room, and goes on inside. -/
def opening (spot : Position) (new blocks : List Block) (inside : List Block → Option Refused) :
    Option Refused :=
  if (new ++ blocks).length > maxBlocks then some ⟨.tooManyBlocks, some spot⟩
  else inside (new ++ blocks)

/-! ## Simple statements -/

/-- Checks expressions that are evaluated. -/
def values (c : Code) (es : List Expr) : Option Refused :=
  es.findSome? (·.refused c .load false)

/-- Checks expressions that are assigned to. -/
def targets (c : Code) (es : List Expr) : Option Refused :=
  es.findSome? (·.refused c .store false)

/-- Checks an assignment with an operation. What the target is a part of is evaluated first, and
the name it may be is assigned last. -/
def augmented (c : Code) (target value : Expr) : Option Refused :=
  let assigned := match target with
    | .name p id _ => refuseDebug id .store (some p)
    | _ => none
  values c (match target with
    | .name _ _ _ => []
    | t => t.children) <|> values c [value] <|> assigned

/-- The expressions of an index: those of a slice, and those of the parts of a tuple. -/
def indexParts : Expr → List Expr
  | .slice _ l u s => l.toList ++ u.toList ++ s.toList
  | .display _ .tuple es => es.flatMap fun
    | .slice _ l u s => l.toList ++ u.toList ++ s.toList
    | e => [e]
  | e => [e]

/-- Checks an assignment with an annotation. Without a value only what the target is a part of is
evaluated. Annotations are evaluated last, and only outside of functions. -/
def annotated (c : Code) (spot : Position) (target note : Expr) (value : Option Expr)
    (bare : Bool) : Option Refused :=
  let assigned := value.bind fun v => values c [v] <|> targets c [target]
  let parts (es : List Expr) := if value.isSome then none else values c es
  let isKept := !c.kind.isFunction && !c.features.textNotes
  let noted := if isKept then values c [note] else none
  assigned <|>
    match target with
    | .name _ id _ => refuseDebug id .store (some spot) <|> noted
    | .attr _ v m => refuseDebug m .store (some spot) <|> parts [v] <|> noted
    | .subscript _ v i => parts (v :: indexParts i) <|> noted
    | _ => if bare then none else noted

/-- Checks the names that an import binds. -/
def imported (spot : Position) (as : List Alias) : Option Refused :=
  refuseDebugs (as.map fun a => String.ofList (a.bound.toList.takeWhile (· != '.'))) spot

/-- Checks a simple statement. -/
def simple (c : Code) (blocks : List Block) (spot : Position) : Simple → Option Refused
  | .breaks => jump spot blocks .breakOutsideLoop
  | .continues => jump spot blocks .continueOutsideLoop
  | .returns v => returning c spot blocks v
  | .assign ts v => values c [v] <|> targets c ts
  | .augmented t _ v => augmented c t v
  | .annotated t n v bare => annotated c spot t n v bare
  | .deletes ts => ts.findSome? (·.refused c .delete false)
  | .imports as => imported spot as
  | .importsFrom m as _ =>
    if m == some Features.module && (c.features.lastLine.all fun l => decide (spot.line > l)) then
      some ⟨.lateFeature, some spot⟩
    else imported spot as
  | s => values c s.exprs

/-! ## Definitions -/

/-- Checks the annotations of parameters and of a result. A star in front of one is allowed. -/
def notes (c : Code) (h : FunctionHead) : Option Refused :=
  let all := match h.params with
    | .mk po ps r ko kr => (ps ++ po ++ r.toList ++ ko ++ kr.toList).flatMap (·.note.toList)
  if c.features.textNotes then none
  else (all ++ h.returns.toList).findSome? (·.refused c .load true)

/-- Checks the head of a function definition. -/
def functionHead (c : Code) (spot : Position) (h : FunctionHead) : Option Refused :=
  refuseDebugs h.params.names spot <|>
    values c h.decorators <|>
    values c (h.params.toList.flatMap (·.default.toList)) <|>
    notes c h

/-- The code of a function. -/
def functionCode (c : Code) (h : FunctionHead) (body : List (Stmt Empty)) : Code :=
  let es := scopeExprs c.features.textNotes body
  ⟨if h.isAsync then .asyncFunction else .function,
    (h.isAsync || es.any Expr.awaits) && es.any Expr.yields, c.features⟩

/-- Checks what a class is made with, behind its body. -/
def classArguments (c : Code) (spot : Position) (h : ClassHead) : Option Refused :=
  refuseKeywords spot h.keywords <|>
    h.bases.findSome? (·.refused c .load true) <|>
    values c (h.keywords.map Keyword.value) <|>
    refuseDebug h.name .store (some spot)

/-! ## Compound statements -/

/-- Refuses an asynchronous statement outside of asynchronous functions. -/
def refuseAsync (c : Code) (spot : Position) (isAsync : Bool) (statement : String) :
    Option Refused :=
  if isAsync && c.kind ≠ .asyncFunction then some ⟨.asyncOutsideAsync statement, some spot⟩
  else none

/-- Checks the items of a `with` statement, each of which opens a block for what follows. -/
def items (c : Code) (spot : Position) (isAsync : Bool) (inside : List Block → Option Refused) :
    List WithItem → List Block → Option Refused
  | [], blocks => inside blocks
  | i :: is, blocks =>
    refuseAsync c spot isAsync "with" <|>
      values c [i.manager] <|>
      opening spot [.manager] blocks fun bs =>
        targets c i.target.toList <|> items c spot isAsync inside is bs

/-- Checks a loop up to its `else` part. -/
def loop (c : Code) (spot : Position) (blocks : List Block)
    (inside : List Block → Option Refused) : LoopHead → Option Refused
  | .over false t i =>
    opening spot [.loop] blocks fun bs => values c [i] <|> targets c [t] <|> inside bs
  | .over true t i =>
    refuseAsync c spot true "for" <|>
      values c [i] <|>
      opening spot [.loop] blocks fun bs => targets c [t] <|> inside bs
  | .whilst t => opening spot [.loop] blocks fun bs => values c [t] <|> inside bs

mutual

/-- The first thing that is refused in a statement. -/
def stmt (c : Code) (blocks : List Block) : Stmt Empty → Option Refused
  | .simple sp s => simple c blocks sp.start s
  | .hole _ h => nomatch h
  | .branch _ t b o => values c [t] <|> block c blocks b <|> block c blocks o
  | .loop sp h b o => loop c sp.start blocks (fun bs => block c bs b) h <|> block c blocks o
  | .function sp h b =>
    functionHead c sp.start h <|>
      block (functionCode c h b) [] b <|>
      refuseDebug h.name .store (some sp.start)
  | .klass sp h b =>
    values c h.decorators <|>
      block (c.inner .klass) [] b <|>
      classArguments c sp.start h
  | .withItems sp isAsync is b => items c sp.start isAsync (fun bs => block c bs b) is blocks
  | .attempt sp star b hs o f =>
    if f.isEmpty then attempt sp.start star blocks
      (fun bs => block c bs b) hs.isEmpty (fun bs => handlers c bs hs)
      (fun bs => block c bs o)
    else
      let leaving (carries : Bool) := block c (if carries then .other :: blocks else blocks) f
      opening sp.start [.final leaving] blocks (fun bs =>
        attempt sp.start star bs
          (fun bs => block c bs b) hs.isEmpty (fun bs => handlers c bs hs)
          (fun bs => block c bs o)) <|>
        block c blocks f <|>
        block c (.other :: blocks) f
  | .select _ e cs => values c [e] <|> cases c blocks true cs
where
  /-- The parts of a `try` without its `finally` part. -/
  attempt (spot : Position) (star : Bool) (blocks : List Block)
      (body : List Block → Option Refused) (isBare : Bool)
      (handlers orelse : List Block → Option Refused) : Option Refused :=
    if isBare then body blocks
    else
      opening spot [.other] blocks body <|>
        if star then handlers (.starHandlers :: blocks) <|> orelse blocks
        else orelse blocks <|> handlers (.other :: blocks)

def block (c : Code) (blocks : List Block) : List (Stmt Empty) → Option Refused
  | [] => none
  | s :: ss => stmt c blocks s <|> block c blocks ss

def handlers (c : Code) (blocks : List Block) : List (Handler Empty) → Option Refused
  | [] => none
  | .mk p t n b :: hs =>
    if t.isNone && !hs.isEmpty then some ⟨.bareHandlerNotLast, some p⟩
    else
      values c t.toList <|>
        refuseDebugs n.toList p <|>
        opening p [.other] blocks (fun bs => block c bs b) <|>
        handlers c blocks hs

/-- Checks the cases of a `match`. The pattern of the last one may match everything, as may those
with a guard. A last wildcard is not generated unless it is the only case. -/
def cases (c : Code) (blocks : List Block) (first : Bool) : List (Case Empty) → Option Refused
  | [] => none
  | .mk p g b :: cs =>
    let matched := if cs.isEmpty && !first && p.isWildcard then none
      else p.refused c (cs.isEmpty || g.isSome)
    matched <|> values c g.toList <|> block c blocks b <|> cases c blocks false cs

end

end Placement

end JumpMacros
