import JumpMacros.Compile.Stmt
import JumpMacros.Compile.Symbols
import JumpMacros.Raised

/-!
# Compilation

Whether the compiler of the language takes a module. It looks at the names of the tree, at the
features that the module asks for, at the scopes of its names, and then generates code; the first
thing it refuses is reported.
-/

namespace JumpMacros

/-- The first thing of a module that the compiler refuses. `textNotes` tells whether annotations
are kept as texts even if the module does not ask for that. -/
def Module.refused (textNotes : Bool) (m : Module Empty) : Option Refused :=
  match Features.ofModule textNotes m with
  | .error r => some r
  | .ok features =>
    m.refusedSymbol features.textNotes <|> Placement.block ⟨.module, false, features⟩ [] m.body

/-- The diagnostic of something that is refused. What has no place is put on line -1. -/
def Refused.diagnostic (file : String) (r : Refused) : Diagnostic :=
  match r.place with
  | some p => .located (.refused r.why) (some file) p
  | none => ⟨.refused r.why, some file, some (-1), none⟩

/-- Checks that the compiler takes a module. -/
def compileModule (file : String) (textNotes : Bool) (m : Module Empty) : Except Raised Unit :=
  match m.unusableName, m.refused textNotes with
  | some n, _ => .error (.unusableName n)
  | none, some r => .error (.diagnostic (r.diagnostic file))
  | none, none => .ok ()

end JumpMacros
