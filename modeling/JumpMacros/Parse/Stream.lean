import JumpMacros.Token.Basic
import JumpMacros.Tree.Stmt
import Std.Data.HashMap

/-!
# Reading tokens

A reader takes tokens from the front of a stream. Where the next token does not fit it fails, and
another alternative can be tried from the same place; a fault that has been raised is final. The
stream remembers the furthest token that any alternative has looked at: a text that no
alternative fits is said to be wrong there.

A text is read twice at most. Only if the first attempt fails does a second one, with a mode that
`explains`, also try the alternatives that recognise common mistakes and raise faults of their
own. What rules have read at a place is remembered, so that trying many alternatives does not
repeat their work.
-/

namespace JumpMacros

/-- What was read at a place, and where reading goes on; `none` if nothing fitted. -/
abbrev Remembered (α : Type) := Option (α × Nat × Position)

/-- Where reading stands. -/
structure Stream where
  /-- The index of the next token. -/
  index : Nat
  /-- Where the last word, literal or mark that was read ended. -/
  last : Position
  /-- The index of the furthest token that has been looked at. -/
  reach : Nat
  /-- What expressions have been read, by place and rule. -/
  exprs : Std.HashMap Nat (Remembered Expr)
  /-- What patterns have been read, by place. -/
  patterns : Std.HashMap Nat (Remembered Pattern)
  /-- What blocks have been read, by place. -/
  blocks : Std.HashMap Nat (Remembered (List (Stmt Empty)))

/-- What is read, and whether mistakes are looked for. -/
structure Mode where
  tokens : Array Token
  explains : Bool

/-- Why reading stopped: a token did not fit, a fault was raised, or the text could not be scanned
any further. -/
inductive Failure where
  | misfit
  | raised (f : Fault)
  | unscannable (f : Fault)

abbrev Reader := ReaderT Mode (ExceptT Failure (StateM Stream))

namespace Reader

/-! ## Single tokens -/

/-- Looks at the token at an index; the end of the text repeats. -/
def look (i : Nat) : Reader Token := do
  let t := (← read).tokens.getD i default
  modify fun s => { s with reach := max s.reach i }
  match t.kind with
  | .broken f _ => throw (.unscannable f)
  | _ => return t

/-- The next token. -/
def peek : Reader Token := do look (← get).index

/-- Whether a token leaves a trace in the text: layout tokens do not. -/
def isVisible (t : Token) : Bool :=
  match t.kind with
  | .newline | .indent | .dedent | .finish | .broken _ _ => false
  | _ => true

/-- Takes the next token. -/
def advance : Reader Token := do
  let t ← peek
  modify fun s => { s with index := s.index + 1, last := if isVisible t then t.stop else s.last }
  return t

/-- Fails. -/
def fail {α : Type} : Reader α := throw .misfit

/-- Takes the next token if it passes a test. -/
def satisfy (test : Token → Bool) : Reader Token := do
  if test (← peek) then advance else fail

def isMark (m : String) (t : Token) : Bool := t.kind == .mark m

def isWord (w : String) (t : Token) : Bool := t.kind == .word w

/-- Takes a mark. -/
def mark (m : String) : Reader Token := satisfy (isMark m)

/-- Takes a reserved word. -/
def word (w : String) : Reader Token := satisfy (isWord w)

/-- Takes the end of a line. -/
def newline : Reader Token := satisfy fun t => t.kind == .newline

/-- Takes a word that is reserved only here. -/
def softWord (w : String) : Reader Token :=
  satisfy fun t => match t.kind with
    | .name _ written => written == w
    | _ => false

/-- Takes an identifier, with the place where it starts. -/
def placedName : Reader (String × Position) := do
  let t ← peek
  match t.kind with
  | .name id _ =>
    let _ ← advance
    return (id, t.start)
  | _ => fail

/-- Takes an identifier. -/
def name : Reader String := return (← placedName).1

/-! ## Raising faults -/

/-- A fault as it is shown when the furthest token has been scanned. On the line of that token the
column depends on the lines it goes on from. -/
def shownFrom (furthest : Token) (f : Fault) : Fault :=
  match furthest.joined with
  | some j => if f.line ≥ furthest.stop.line then { f with col := f.col.map j.shown } else f
  | none => f

/-- Raises a fault on a line, at a column in characters. -/
def raiseIn {α : Type} (kind : FaultKind) (line : Nat) (col : Option Nat) : Reader α := do
  let furthest := (← read).tokens.getD (← get).reach default
  throw (.raised (shownFrom furthest ⟨kind, line, col⟩))

/-- Raises a fault at a token. -/
def raise {α : Type} (kind : FaultKind) (t : Token) : Reader α :=
  raiseIn kind t.start.line (if t.kind == .finish then none else t.shown)

/-- Raises a fault at the furthest token that has been looked at. -/
def raiseHere {α : Type} (kind : FaultKind) : Reader α := do
  let t := (← read).tokens.getD (← get).reach default
  raiseIn kind t.start.line t.shown

/-- Raises a fault at a place where a token starts. -/
def raiseAt {α : Type} (kind : FaultKind) (p : Position) : Reader α := do
  let shown := ((← read).tokens.find? fun t => t.start == p && isVisible t).bind Token.shown
  raiseIn kind p.line (some (shown.getD p.col))

/-- A mark that must follow: its absence is a fault of its own. -/
def needMark (m : String) : Reader Unit := do
  let t ← peek
  if isMark m t then
    let _ ← advance
  else raise (.expected m) t

/-! ## Alternatives -/

/-- Tries an alternative, and another one from the same place if it fails. -/
def orElse {α : Type} (p q : Reader α) : Reader α := fun mode s =>
  let index := s.index
  let last := s.last
  match p mode s with
  | (.error .misfit, s) => q mode { s with index, last }
  | r => r

/-- Tries alternatives in order, each from the same place. -/
def firstOf {α : Type} : List (Reader α) → Reader α
  | [] => fail
  | [p] => p
  | p :: ps => orElse p (firstOf ps)

/-- Something that may be there. -/
def optional {α : Type} (p : Reader α) : Reader (Option α) := orElse (some <$> p) (pure none)

/-- Reads ahead without taking anything; tells whether it could. -/
def ahead {α : Type} (p : Reader α) : Reader Bool := fun mode s =>
  let index := s.index
  let last := s.last
  match p mode s with
  | (.ok _, s) => (.ok true, { s with index, last })
  | (.error .misfit, s) => (.ok false, { s with index, last })
  | (.error e, s) => (.error e, s)

/-- Something must follow, but is not taken. -/
def followedBy {α : Type} (p : Reader α) : Reader Unit := do if !(← ahead p) then fail

/-- Something must not follow. -/
def notFollowedBy {α : Type} (p : Reader α) : Reader Unit := do if ← ahead p then fail

/-- One of several marks. -/
def anyMark (ms : List String) : Reader Token := satisfy fun t => ms.any fun m => isMark m t

/-- An alternative that recognises a mistake: it is tried only when a failure is explained. -/
def explaining {α : Type} (p : Reader α) : Reader α := do if (← read).explains then p else fail

/-- Reads without looking for mistakes. -/
def withoutExplaining {α : Type} (p : Reader α) : Reader α := fun mode s =>
  p { mode with explains := false } s

/-! ## Repetition -/

/-- Repeats a reader as long as it fits, at most a number of times; gives the results last
first. -/
def loop {α : Type} (p : Reader α) : Nat → List α → Reader (List α)
  | 0, acc => pure acc
  | n + 1, acc => do
    match ← optional p with
    | some a => loop p n (a :: acc)
    | none => pure acc

/-- An upper bound for the number of tokens left. -/
def left : Reader Nat := return (← read).tokens.size + 1 - (← get).index

/-- Repeats a reader as long as it fits. The reader takes a token whenever it fits, so there are
no more steps than tokens. -/
def many {α : Type} (p : Reader α) : Reader (List α) := do
  return (← loop p (← left) []).reverse

/-- Repeats a reader as long as it fits, at least once. -/
def manyOne {α : Type} (p : Reader α) : Reader (List α) := do
  let first ← p
  return first :: (← many p)

/-- Items with a mark between them, at least one. -/
def separated {α : Type} (m : String) (p : Reader α) : Reader (List α) := do
  let first ← p
  return first :: (← many do
    let _ ← mark m
    p)

/-- Extends what has been read as long as that can be done. -/
def extend {α : Type} (step : α → Reader α) : Nat → α → Reader α
  | 0, a => pure a
  | n + 1, a => do
    match ← optional (step a) with
    | some b => extend step n b
    | none => pure a

/-- Reads something and extends it as long as that can be done. -/
def extended {α : Type} (p : Reader α) (step : α → Reader α) : Reader α := do
  let a ← p
  extend step (← left) a

/-! ## Remembering -/

/-- Goes on behind what is remembered, or fails as is remembered. -/
def resume {α : Type} : Remembered α → Reader α
  | some (a, index, last) => do
    modify fun s => { s with index, last }
    return a
  | none => fail

/-- The rules that read an expression and remember it. -/
inductive Rule where
  | expression | starExpression | disjunction | conjunction | inversion
  | bitOr | bitXor | bitAnd | shift | sum | term | factor | awaited | primary
  | strings | target | targetAtom | targetPrimary | deleted | mistakenName
deriving DecidableEq

def Rule.number : Rule → Nat
  | .expression => 0
  | .starExpression => 1
  | .disjunction => 2
  | .conjunction => 3
  | .inversion => 4
  | .bitOr => 5
  | .bitXor => 6
  | .bitAnd => 7
  | .shift => 8
  | .sum => 9
  | .term => 10
  | .factor => 11
  | .awaited => 12
  | .primary => 13
  | .strings => 14
  | .target => 15
  | .targetAtom => 16
  | .targetPrimary => 17
  | .deleted => 18
  | .mistakenName => 19

/-- Reads an expression by a rule, or remembers what the rule read here before. -/
def remembered (rule : Rule) (p : Reader Expr) : Reader Expr := fun mode s =>
  let key := s.index * 32 + rule.number
  match s.exprs[key]? with
  | some r => resume r mode s
  | none =>
    match p mode s with
    | (.ok e, s) =>
      (.ok e, { s with exprs := s.exprs.insert key (some (e, s.index, s.last)) })
    | (.error .misfit, s) => (.error .misfit, { s with exprs := s.exprs.insert key none })
    | r => r

/-- Reads a pattern, or remembers what was read here before. -/
def rememberedPattern (p : Reader Pattern) : Reader Pattern := fun mode s =>
  let key := s.index
  match s.patterns[key]? with
  | some r => resume r mode s
  | none =>
    match p mode s with
    | (.ok q, s) =>
      (.ok q, { s with patterns := s.patterns.insert key (some (q, s.index, s.last)) })
    | (.error .misfit, s) => (.error .misfit, { s with patterns := s.patterns.insert key none })
    | r => r

/-- Reads a block, or remembers what was read here before. -/
def rememberedBlock (p : Reader (List (Stmt Empty))) : Reader (List (Stmt Empty)) := fun mode s =>
  let key := s.index
  match s.blocks[key]? with
  | some r => resume r mode s
  | none =>
    match p mode s with
    | (.ok b, s) => (.ok b, { s with blocks := s.blocks.insert key (some (b, s.index, s.last)) })
    | (.error .misfit, s) => (.error .misfit, { s with blocks := s.blocks.insert key none })
    | r => r

/-! ## Whole texts -/

/-- The fault of a text that does not fit, given the furthest token. -/
def misfitAt (t : Token) : Fault :=
  match t.kind with
  | .indent => ⟨.unexpectedIndent, t.start.line, t.shown⟩
  | .dedent => ⟨.unexpectedUnindent, t.start.line, t.shown⟩
  | .finish => ⟨.invalid, t.start.line, none⟩
  | _ => ⟨.invalid, t.start.line, t.shown⟩

/-- What is told instead of a fault found by reading: a later fault of scanning goes first if it is
urgent, and so does a bracket that was never closed and stands on a line before the furthest
token. -/
def overruled (tokens : Array Token) (furthest : Token) (f : Fault) : Fault :=
  match tokens.back?.map Token.kind with
  | some (.broken b missed) =>
    if b.kind.isUrgent then b
    else (missed.filter fun m => furthest.start.line > m.line).getD f
  | _ => f

/-- Reads all of a text, or tells what is wrong with it. -/
def run {α : Type} (p : Reader α) (tokens : Array Token) (start : Position) : Except Fault α :=
  let fresh : Stream := ⟨0, start, 0, ∅, ∅, ∅⟩
  match p ⟨tokens, false⟩ fresh with
  | (.ok a, _) => .ok a
  | (.error (.unscannable f), _) => .error f
  | (.error (.raised f), s) => .error (overruled tokens (tokens.getD s.reach default) f)
  | (.error .misfit, s) =>
    let furthest := tokens.getD s.reach default
    match p ⟨tokens, true⟩ { fresh with reach := s.reach } with
    | (.error (.unscannable f), _) => .error f
    | (.error (.raised f), s) => .error (overruled tokens (tokens.getD s.reach default) f)
    | (_, s) =>
      let last := tokens.getD s.reach default
      if furthest.kind == .indent || furthest.kind == .dedent then .error (misfitAt furthest)
      else .error (overruled tokens last (shownFrom last (misfitAt furthest)))

end Reader

end JumpMacros
