import JumpMacros.Settings

/-!
# The import hook

Modules are found by asking finders in order. Installing the hook puts an expanding finder in
front of the others; it is told apart from any other expanding finder by its number, so that it
can be recognised when it is asked for again or taken out.

`Finders.install` does nothing while the hook is installed; `Finders.uninstall` forgets it.
Neither touches another finder.
-/

namespace JumpMacros

/-- Who is asked for a module: a finder that expands macros, or one that belongs to somebody
else. -/
inductive Finder where
  | expanding (number : Nat) (settings : Settings)
  | other (name : String)
deriving DecidableEq, Repr

namespace Finder

def isExpanding : Finder → Bool
  | .expanding _ _ => true
  | .other _ => false

/-- The settings of a finder that expands macros. -/
def settings? : Finder → Option Settings
  | .expanding _ s => some s
  | .other _ => none

end Finder

/-- The finders in the order in which they are asked, the one that is known as installed, and the
number of the next one. -/
structure Finders where
  order : List Finder
  hook : Option Finder
  next : Nat
deriving DecidableEq, Repr

namespace Finders

/-- No hook, and nobody else. -/
def none : Finders := ⟨[], .none, 0⟩

/-- Whether the hook is installed: it is known, and still asked. -/
def isInstalled (f : Finders) : Bool :=
  match f.hook with
  | some h => f.order.contains h
  | .none => false

/-- Installs the hook, and gives the finder that is installed now. -/
def install (f : Finders) (s : Settings) : Finders × Finder :=
  match f.hook with
  | some h => if f.order.contains h then (f, h) else fresh
  | .none => fresh
where
  fresh : Finders × Finder :=
    let h := Finder.expanding f.next s
    (⟨h :: f.order, some h, f.next + 1⟩, h)

/-- Takes a finder out, where it stands first. -/
def remove (f : Finders) (x : Finder) : Finders := { f with order := f.order.erase x }

/-- Takes the hook out and forgets it. -/
def uninstall (f : Finders) : Finders :=
  match f.hook with
  | some h => { f.remove h with hook := .none }
  | .none => f

/-- How many finders expand macros. -/
def count (f : Finders) : Nat := f.order.countP Finder.isExpanding

end Finders

end JumpMacros
