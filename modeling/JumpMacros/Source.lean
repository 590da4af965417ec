import JumpMacros.Compile
import JumpMacros.Expand
import JumpMacros.Parse.Module

/-!
# Source texts

A source text is read, its module is expanded, and what comes out is compiled. A text that cannot
be read is reported as a diagnostic; of several diagnostics the first is raised.
-/

namespace JumpMacros

/-- Reads a source text; a fault is a diagnostic. -/
def parseSource (file : String) (text : String) : Except Raised (Module Empty) :=
  match Module.parse text with
  | .ok m => .ok m
  | .error .nullCharacter => .error .nullCharacter
  | .error (.fault f) => .error
    (.diagnostic ⟨.unparsable f.kind, some file, some f.line, f.col.map Int.ofNat⟩)

/-- Reads and expands a source text, with the first diagnostic if there are any. -/
def expandSource (s : Settings) (file : String) (text : String) : Except Raised Expanded := do
  let m ← parseSource file text
  match expandModule s (some file) m with
  | .ok e => .ok e
  | .error e => .error e.raised

/-- Expands and compiles a source text. -/
def compileSource (s : Settings) (file text : String) : Except Raised Expanded := do
  let e ← expandSource s file text
  compileModule file false e.module
  return e

end JumpMacros
