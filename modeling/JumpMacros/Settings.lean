import JumpMacros.Rule

/-!
# Settings

What a user can configure: further names under which the macros are known without an import, the
package they are imported from, and how the names of flags begin.
-/

namespace JumpMacros

/-- The settings of an expansion. `implicitNames` lists, by macro name, names that denote the
macro without an import. -/
structure Settings where
  implicitNames : List (String × List String)
  package : String
  flagPrefix : String
deriving DecidableEq, Repr

namespace Settings

def default : Settings := ⟨[], "flow_control", "_flow_"⟩

instance : Inhabited Settings := ⟨default⟩

/-- The values of a settings file; what is absent keeps its default. -/
structure Overrides where
  implicitNames : Option (List (String × List String))
  package : Option String
  flagPrefix : Option String
deriving DecidableEq, Repr

def Overrides.empty : Overrides := ⟨none, none, none⟩

/-- Whether nothing is set. -/
def Overrides.isEmpty (o : Overrides) : Bool :=
  o.implicitNames.isNone && o.package.isNone && o.flagPrefix.isNone

/-- The default settings with overrides. -/
def ofOverrides (o : Overrides) : Settings :=
  ⟨o.implicitNames.getD default.implicitNames, o.package.getD default.package,
    o.flagPrefix.getD default.flagPrefix⟩

/-- Keeps the first of equal names. -/
def dedup (names : List String) : List String :=
  names.foldl (fun seen n => if seen.contains n then seen else seen ++ [n]) []

/-- Settings under which every macro is also known by its own name. -/
def withBareNames (s : Settings) : Settings :=
  { s with implicitNames := Macro.names.map fun m =>
      (m, dedup (m :: (s.implicitNames.lookup m).getD [])) }

end Settings

end JumpMacros
