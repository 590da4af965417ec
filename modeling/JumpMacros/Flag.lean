import JumpMacros.Settings
import JumpMacros.Text.Identifier
import JumpMacros.Tree.Node

/-!
# Flags

Lowering introduces variables of its own, the flags. A flag's name is built from the kind of jump
and the label; a number is added if the name is taken. Names that occur in a module in any role
are taken, and so is every flag allocated before.
-/

namespace JumpMacros

open Text (rootOf)

/-- The names a node itself contains. -/
def Node.ownNames {Hole : Type} : Node Hole → List String
  | .expr (.name _ id _) => [id]
  | .expr (.lambda _ ps _) => ps.names
  | .stmt (.function _ h _) => h.name :: h.params.names
  | .stmt (.klass _ h _) => [h.name]
  | .stmt (.simple _ (.imports as)) | .stmt (.simple _ (.importsFrom _ as _)) =>
    as.map fun a => rootOf a.bound
  | .stmt (.simple _ (.globals ns)) | .stmt (.simple _ (.nonlocals ns)) => ns
  | .handler (.mk _ _ (some n) _) => [n]
  | .pattern p => p.binds.toList
  | _ => []

/-- The names that occur in a list of statements. -/
def namesIn {Hole : Type} [HasExprs Hole] (body : List (Stmt Hole)) : List String :=
  (Node.all (Node.ofStmts body)).flatMap Node.ownNames

/-- The names of a module, each once, in order. -/
def Module.sortedNames {Hole : Type} [HasExprs Hole] (m : Module Hole) : List String :=
  Settings.dedup ((namesIn m.body).mergeSort fun a b => a ≤ b)

def JumpKind.name : JumpKind → String
  | .breaks => "break"
  | .continues => "continue"

/-- The name a flag has if it is free. -/
def flagBase (flagPrefix kind label : String) : String := flagPrefix ++ kind ++ "_" ++ label

/-- The names tried for a flag: the base, then the base with a number. -/
def flagCandidate (base : String) : Nat → String
  | 0 => base
  | n + 1 => base ++ "_" ++ toString (n + 1)

/-- The first candidate that is not taken. Among one more candidates than names taken there is
one. -/
def freshFlag (taken : List String) (base : String) : String :=
  (((List.range (taken.length + 1)).map (flagCandidate base)).find? fun c => !taken.contains c).getD
    base

/-- Allocates a flag: its name, and the names taken from now on. -/
def allocate (flagPrefix : String) (taken : List String) (kind label : String) :
    String × List String :=
  let flag := freshFlag taken (flagBase flagPrefix kind label)
  (flag, flag :: taken)

/-- Allocates flags one after the other. -/
def allocateAll (flagPrefix : String) : List String → List (String × String) → List String
  | _, [] => []
  | taken, (kind, label) :: rest =>
    let (flag, taken) := allocate flagPrefix taken kind label
    flag :: allocateAll flagPrefix taken rest

end JumpMacros
