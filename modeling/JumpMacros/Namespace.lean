import JumpMacros.Scope

/-!
# Namespaces

The namespace of a module that has run says what its names are bound to. For expanding a single
function, whose source does not show the imports of its module, the macros are looked up there:
a name bound to a macro denotes it, and a name bound to the package gives the macros a dotted
spelling.
-/

namespace JumpMacros

/-- What a name is bound to, as far as macros are concerned. -/
inductive Bound where
  /-- Something that can be called, with the name of the macro it stands for. -/
  | callable (tag : Option String)
  | module (name : String)
  | other
deriving DecidableEq, Repr

/-- The macro a value stands for. -/
def Bound.macroName? : Bound → Option String
  | .callable tag => tag
  | _ => none

/-- The spellings a name with a value gives, with the macros they denote. -/
def Bound.spellings (package name : String) : Bound → List (String × String)
  | .callable (some tag) => [(name, tag)]
  | .module n => if n == package then Macro.names.map fun m => (name ++ "." ++ m, m) else []
  | _ => []

/-- The table of a namespace. -/
def namespaceTable (package : String) (ns : List (String × Bound)) : Table :=
  (ns.flatMap fun (name, b) => b.spellings package name).foldl (fun t (s, m) => t.insert s m) []

namespace Settings

/-- Adds a spelling to the implicit names of a macro. -/
def addName (names : List (String × List String)) (name spelling : String) :
    List (String × List String) :=
  match names with
  | [] => [(name, [spelling])]
  | (m, ss) :: rest =>
    if m == name then (m, ss ++ [spelling]) :: rest else (m, ss) :: addName rest name spelling

/-- Settings under which the macros of a namespace are known without an import. -/
def withNamespace (s : Settings) (ns : List (String × Bound)) : Settings :=
  let add (names : List (String × List String)) (e : String × String) := addName names e.2 e.1
  { s with implicitNames := (namespaceTable s.package ns).sorted.foldl add s.implicitNames }

end Settings

end JumpMacros
