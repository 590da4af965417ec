import JumpMacros.Raised
import JumpMacros.Rule

/-!
# Calling macros

A macro that is called has not been expanded. The call is checked against the parameters of the
macro first, as any call is.
-/

namespace JumpMacros

/-- The parameters that take arguments by position: those without a default value come first. -/
structure Signature where
  name : String
  required : List String
  optional : List String
deriving DecidableEq, Repr

namespace Signature

/-- Words joined for reading: the last two by `and`. -/
def joinWords : List String → String
  | [] => ""
  | [a] => a
  | [a, b] => a ++ " and " ++ b
  | ws => ", ".intercalate ws.dropLast ++ ", and " ++ ws.getLastD ""

def plural (word : String) (n : Nat) : String := if n = 1 then word else word ++ "s"

/-- What is wrong with a call that gives a number of arguments. -/
def problem? (s : Signature) (given : Nat) : Option String :=
  let least := s.required.length
  let most := least + s.optional.length
  if given < least then
    let missing := s.required.drop given
    some (s.name ++ "() missing " ++ toString missing.length ++ " required positional " ++
      plural "argument" missing.length ++ ": " ++ joinWords (missing.map Text.quoted))
  else if given > most then
    let takes := if least = most then toString most ++ " positional " ++ plural "argument" most
      else "from " ++ toString least ++ " to " ++ toString most ++ " positional arguments"
    some (s.name ++ "() takes " ++ takes ++ " but " ++ toString given ++
      (if given = 1 then " was given" else " were given"))
  else none

end Signature

/-- The parameters of a macro. -/
def Macro.signature (m : Macro) : Signature :=
  match m with
  | .breakIf | .continueIf => ⟨m.name, ["predicate"], ["label"]⟩
  | .returnIf => ⟨m.name, ["predicate"], ["value"]⟩
  | .label => ⟨m.name, ["name"], []⟩

/-- What calling a macro with a number of arguments raises. -/
def Macro.call (m : Macro) (given : Nat) : Raised :=
  match m.signature.problem? given with
  | some p => .typeError p
  | none => .notExpanded m.name

end JumpMacros
