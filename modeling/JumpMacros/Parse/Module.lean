import JumpMacros.Parse.Stmt

/-!
# Reading modules

`Module.parse` reads a source text. A text with a null character is no source text at all; any
other text is a module or has a fault.
-/

namespace JumpMacros

open Reader

/-- Why a text could not be read. -/
inductive ParseError where
  | nullCharacter
  | fault (f : Fault)
deriving DecidableEq, Repr

/-- The statements of a whole text. -/
def moduleBody (depth : Nat) : Reader (List (Stmt Empty)) := do
  let r : Recur := expressionAt depth
  let chunks ← many (statementAt r (Pattern.readAt r depth) depth depth)
  let _ ← satisfy fun t => t.kind == .finish
  return chunks.flatten

/-- Reads a module from its tokens. -/
def Module.ofTokens (depth : Nat) (tokens : List Token) : Except Fault (Module Empty) :=
  (run (moduleBody depth) tokens.toArray ⟨1, 0⟩).map fun body => ⟨body⟩

/-- Reads a source text. -/
def Module.parse (text : String) : Except ParseError (Module Empty) :=
  if text.toList.contains '\x00' then .error .nullCharacter
  else
    match Module.ofTokens (text.length + 3) (scan text) with
    | .ok m => .ok m
    | .error f => .error (.fault f)

end JumpMacros
