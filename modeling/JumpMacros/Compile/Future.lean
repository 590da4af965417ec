import JumpMacros.Compile.Refusal
import JumpMacros.Tree.Stmt

/-!
# Features of the language

A module can ask for features by importing them from `__future__`. Such imports stand at its
beginning, behind its doc string at most; one that follows another statement on the same line is
refused here, and one further down when code is generated for it.
-/

namespace JumpMacros

/-- What a module asks for: whether its annotations are kept as texts, and the line on which it
asks for a feature last. -/
structure Features where
  textNotes : Bool
  lastLine : Option Nat
deriving DecidableEq, Repr

namespace Features

/-- The module that features are imported from. -/
def module : String := "__future__"

/-- The features there are. -/
def known : List String :=
  ["nested_scopes", "generators", "division", "absolute_import", "with_statement",
    "print_function", "unicode_literals", "barry_as_FLUFL", "generator_stop", "annotations"]

/-- Takes up the imported names of a statement. -/
def demand (spot : Position) (f : Features) : List Alias → Except Refused Features
  | [] => .ok { f with lastLine := some spot.line }
  | a :: as =>
    if known.contains a.name then
      demand spot { f with textNotes := f.textNotes || a.name == "annotations" } as
    else .error ⟨if a.name == "braces" then .braces else .unknownFeature a.name, some spot⟩

/-- Takes up the statements at the beginning of a module. `passed` is the line of the statement
before, if that was something else than an import of features. -/
def ofStmts (f : Features) (passed : Option Nat) : List (Stmt Empty) → Except Refused Features
  | [] => .ok f
  | s :: ss =>
    if (passed.map fun l => decide (s.span.line > l)).getD false then .ok f
    else
      match s with
      | .simple sp (.importsFrom (some m) as _) =>
        if m != module then ofStmts f (some sp.line) ss
        else if passed.isSome then
          .error ⟨.lateFeature, some ⟨sp.line, sp.col - 1⟩⟩
        else
          match demand sp.start f as with
          | .ok g => ofStmts g none ss
          | .error e => .error e
      | s => ofStmts f (some s.span.line) ss

/-- Whether a statement is a doc string. -/
def isDocString : Stmt Empty → Bool
  | .simple _ (.expr (.const _ (.str _ _))) => true
  | _ => false

/-- The features that a module asks for. `textNotes` tells whether annotations are kept as texts
anyway. -/
def ofModule (textNotes : Bool) (m : Module Empty) : Except Refused Features :=
  ofStmts ⟨textNotes, none⟩ none (match m.body with
    | s :: ss => if isDocString s then ss else s :: ss
    | [] => [])

end Features

end JumpMacros
