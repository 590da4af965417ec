import JumpMacros.Settings
import JumpMacros.Text.Identifier
import JumpMacros.Tree.Node

/-!
# Scopes

A `Table` says which spellings denote macros at a place. A scope takes over the table around it,
adds what its own imports from the package bind, and drops every spelling whose root name the
scope binds in any other way, wherever in the scope that happens.
-/

namespace JumpMacros

open Text (rootOf)

/-- Spellings with the macros they denote; each spelling once. -/
abbrev Table := List (String × String)

namespace Table

/-- Makes a spelling denote a macro. -/
def insert (t : Table) (spelling name : String) : Table :=
  (spelling, name) :: t.filter fun e => e.1 != spelling

/-- Drops the spellings whose root is among the given names. -/
def without (t : Table) (names : List String) : Table :=
  t.filter fun e => !names.contains (rootOf e.1)

/-- The entries in order of their spellings. -/
def sorted (t : Table) : List (String × String) := t.mergeSort fun a b => a.1 ≤ b.1

end Table

/-- What a node does to the names of its scope: make a spelling denote a macro, or bind a name to
something else. -/
inductive Binding where
  | denotes (spelling name : String)
  | binds (name : String)
deriving DecidableEq, Repr

/-- What importing names from a module binds. -/
def importFromBindings (package : String) (path : Option String) (level : Nat) (a : Alias) :
    List Binding :=
  let fromPackage := level = 0 && path == some package
  if a.name == "*" then
    if fromPackage then Macro.names.map fun m => .denotes m m else []
  else if fromPackage && Macro.names.contains a.name then [.denotes a.bound a.name]
  else [.binds a.bound]

/-- What importing a module binds: the package's macros are spelled through it. -/
def importBindings (package : String) (a : Alias) : List Binding :=
  if a.name == package then Macro.names.map fun m => .denotes (a.bound ++ "." ++ m) m
  else
    match a.asName with
    | some n => [.binds n]
    | none => if a.name.startsWith (package ++ ".") then [] else [.binds (rootOf a.name)]

/-- What a node itself binds in its scope. -/
def Node.bindings {Hole : Type} (package : String) : Node Hole → List Binding
  | .stmt (.simple _ (.importsFrom path as level)) =>
    as.flatMap (importFromBindings package path level)
  | .stmt (.simple _ (.imports as)) => as.flatMap (importBindings package)
  | .stmt (.function _ h _) => [.binds h.name]
  | .stmt (.klass _ h _) => [.binds h.name]
  | .expr (.name _ id use) => if use.binds then [.binds id] else []
  | .handler (.mk _ _ (some n) _) => [.binds n]
  | .pattern p => p.binds.toList.map .binds
  | _ => []

/-- The bindings of a scope, in source order. -/
def scopeBindings {Hole : Type} [HasExprs Hole] (package : String) (body : List (Stmt Hole)) :
    List Binding :=
  (Node.scopeNodes body).flatMap (Node.bindings package)

/-- The names bound to something else than a macro. -/
def boundNames (bs : List Binding) : List String :=
  bs.filterMap fun
    | .binds n => some n
    | .denotes _ _ => none

/-- Adds the spellings that denote macros; a later one replaces an equal earlier one. -/
def addDenoted (t : Table) (bs : List Binding) : Table :=
  bs.foldl (fun t b => match b with
    | .denotes s m => t.insert s m
    | .binds _ => t) t

/-- The table of a scope with a body and parameters, inside a scope with a table. -/
def scopeTable (package : String) (body : List (Stmt Empty)) (enclosing : Table)
    (params : List String) : Table :=
  let bs := scopeBindings package body
  (addDenoted enclosing bs).without (params ++ boundNames bs)

/-- The table of the implicit names: macros in the order of their names, a later entry replacing
an equal earlier one. -/
def Settings.implicitTable (s : Settings) : Table :=
  (s.implicitNames.mergeSort fun a b => a.1 ≤ b.1).foldl
    (fun t (m, spellings) => spellings.foldl (fun t sp => t.insert sp m) t) []

/-- The table of a module's own scope. -/
def moduleTable (s : Settings) (m : Module Empty) : Table :=
  scopeTable s.package m.body s.implicitTable []

end JumpMacros
