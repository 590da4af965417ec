import JumpMacros.Diagnostic
import JumpMacros.Tree.Stmt

/-!
# Macros and their rules

The four macros, and for each the shapes its calls can have. Shapes differ in their number of
arguments alone, so at most one rule fits a call. A rule turns the arguments into a replacement
and leaves them as they are.
-/

namespace JumpMacros

/-- The macros. -/
inductive Macro where
  | breakIf
  | continueIf
  | returnIf
  | label
deriving DecidableEq, Repr

namespace Macro

/-- All macros, in the order in which they are listed. -/
def all : List Macro := [.breakIf, .continueIf, .returnIf, .label]

def name : Macro → String
  | .breakIf => "break_if"
  | .continueIf => "continue_if"
  | .returnIf => "return_if"
  | .label => "label"

def ofName? (s : String) : Option Macro := all.find? (·.name == s)

/-- The names of all macros. -/
def names : List String := all.map name

def summary : Macro → String
  | .breakIf => "break from a loop if the predicate is true"
  | .continueIf => "continue to the next loop iteration if the predicate is true"
  | .returnIf => "return from the function if the predicate is true"
  | .label => "name the loop that follows, for labelled break_if/continue_if"

end Macro

/-- How a guarded replacement leaves. -/
inductive Transfer where
  | breaks
  | continues
  | returns (value : Option Expr)
  | jump (kind : JumpKind) (label : Expr)

/-- What a macro call becomes: a guarded transfer, or the label of the loop that follows. -/
inductive Replacement where
  | guarded (test : Expr) (transfer : Transfer)
  | loopLabel (label : Expr)

/-- A shape with what calls of that shape become. `build` is defined on as many arguments as the
shape names. -/
structure Rule where
  shape : List String
  build : List Expr → Option Replacement

namespace Rule

def arity (r : Rule) : Nat := r.shape.length

def describe (r : Rule) : String := "(" ++ ", ".intercalate r.shape ++ ")"

/-- A rule for one argument. -/
def one (a : String) (f : Expr → Replacement) : Rule where
  shape := [a]
  build
    | [x] => some (f x)
    | _ => none

/-- A rule for two arguments. -/
def two (a b : String) (f : Expr → Expr → Replacement) : Rule where
  shape := [a, b]
  build
    | [x, y] => some (f x y)
    | _ => none

end Rule

/-- The rules of a macro. -/
def Macro.rules : Macro → List Rule
  | .breakIf => [
      .one "predicate" fun p => .guarded p .breaks,
      .two "predicate" "label" fun p l => .guarded p (.jump .breaks l)]
  | .continueIf => [
      .one "predicate" fun p => .guarded p .continues,
      .two "predicate" "label" fun p l => .guarded p (.jump .continues l)]
  | .returnIf => [
      .one "predicate" fun p => .guarded p (.returns none),
      .two "predicate" "value" fun p v => .guarded p (.returns (some v))]
  | .label => [.one "name" .loopLabel]

/-- A call statement of a macro as written. `name` is what diagnostics call the macro. -/
structure Invocation where
  name : String
  args : List Expr
  keywords : List Keyword
  span : Option Span

namespace Invocation

def line (i : Invocation) : Option Nat := i.span.map Span.line

def col (i : Invocation) : Option Nat := i.span.map Span.col

/-- What is wrong with the arguments apart from their number. -/
def badForm (i : Invocation) : Option ShapeProblem :=
  if !i.keywords.isEmpty then some .keywords
  else if i.args.any fun
    | .starred _ _ => true
    | _ => false then some .starred
  else none

/-- The rule of a macro that fits a call, or what is wrong with the call. -/
def rule (m : Macro) (i : Invocation) : Except ShapeProblem Rule :=
  match i.badForm with
  | some p => .error p
  | none =>
    match m.rules.find? fun r => r.arity = i.args.length with
    | some r => .ok r
    | none => .error (.count i.args.length)

/-- The diagnostic of a call that fits no rule. -/
def mismatch (m : Macro) (i : Invocation) (file : Option String) (p : ShapeProblem) : Diagnostic :=
  ⟨.shapeMismatch i.name (m.rules.map Rule.describe) p, file, i.line.map Int.ofNat,
    i.col.map Int.ofNat⟩

/-- What a call becomes, with the rule it fits. -/
def replacement (m : Macro) (i : Invocation) : Except ShapeProblem (Replacement × Rule) :=
  match i.rule m with
  | .error p => .error p
  | .ok r =>
    match r.build i.args with
    | some x => .ok (x, r)
    | none => .error (.count i.args.length)

end Invocation

/-- A transfer as a statement at a place. -/
def Transfer.toStmt (span : Span) : Transfer → Stmt Placeholder
  | .breaks => .simple span .breaks
  | .continues => .simple span .continues
  | .returns v => .simple span (.returns v)
  | .jump k l => .hole span (.jump k l)

/-- A replacement as a statement at a place. -/
def Replacement.toStmt (span : Span) : Replacement → Stmt Placeholder
  | .guarded t x => .branch span t [x.toStmt span] []
  | .loopLabel l => .hole span (.loopLabel l)

end JumpMacros
