import JumpMacros.Expansion
import JumpMacros.Lowering
import JumpMacros.Raised

/-!
# Expanding modules

`expandModule` replaces the macro calls of a module and lowers its labels. Diagnostics of the
first step hide those of the second.
-/

namespace JumpMacros

/-- An expanded module: its tree, a record for each invocation, and its text. -/
structure Expanded where
  module : Module Empty
  records : List Record
  source : String

/-- Why a module could not be expanded: diagnostics; a name that the settings use for a macro but
no macro has; or why the expanded module has no text. -/
inductive ExpandError where
  | diagnostics (ds : List Diagnostic)
  | unknownMacro (name : String)
  | unwritable (u : Unwritable)

/-- The diagnostics of replacing macro calls. -/
def expansionDiagnostics (file : Option String) (is : List Invocation)
    (cs : List MisplacedCall) : List Diagnostic :=
  (is.filterMap fun i => (i.verdict file).diagnostic?) ++ cs.map (MisplacedCall.diagnostic file)

/-- The module with its invocations replaced. -/
def Module.expand (s : Settings) (m : Module Empty) : Module Placeholder :=
  ⟨Stmt.expandAll s.package (.ofTable (moduleTable s m)) m.body⟩

/-- Expands a module. -/
def expandModule (s : Settings) (file : Option String) (m : Module Empty) :
    Except ExpandError Expanded :=
  let env := Env.ofTable (moduleTable s m)
  let is := invocations s.package env m.body
  match is.findSome? fun i => (i.verdict file).unknown? with
  | some name => .error (.unknownMacro name)
  | none =>
    let ds := expansionDiagnostics file is (misplacedCalls s.package env m.body)
    if !ds.isEmpty then .error (.diagnostics (Diagnostic.sort ds))
    else
      let lowered := (m.expand s).lower s file
      match lowered.unwritable, lowered.diagnostics with
      | some u, _ => .error (.unwritable u)
      | none, d :: ds => .error (.diagnostics (Diagnostic.sort (d :: ds)))
      | none, [] =>
        match lowered.module.written with
        | .error u => .error (.unwritable u)
        | .ok text =>
          .ok ⟨lowered.module, is.filterMap fun i => (i.verdict file).record?, text⟩

/-- What is raised for a failed expansion: the first diagnostic stands for all. -/
def ExpandError.raised : ExpandError → Raised
  | .diagnostics (d :: _) => .diagnostic d
  | .diagnostics [] => .unwritable .backslash
  | .unknownMacro n => .unknownMacro n
  | .unwritable u => .unwritable u

end JumpMacros
