/-!
# Code points

The value of a string literal is a sequence of code points. It may hold a surrogate on its own,
which a `String` cannot, so literal values are kept as `Points`.
-/

namespace JumpMacros.Text

/-- A sequence of code points, lone surrogates included. -/
structure Points where
  toList : List Nat
deriving DecidableEq, Repr, Inhabited

namespace Points

/-- Whether a code point is a surrogate. -/
def isSurrogate (c : Nat) : Bool := 0xd800 ≤ c && c < 0xe000

def ofString (s : String) : Points := ⟨s.toList.map Char.toNat⟩

/-- The text with these code points; `none` when a surrogate is among them. -/
def toString? (p : Points) : Option String :=
  if p.toList.any isSurrogate then none else some (String.ofList (p.toList.map Char.ofNat))

/-- The text with these code points, each lone surrogate shown as a replacement character. -/
def display (p : Points) : String :=
  String.ofList (p.toList.map fun c => if isSurrogate c then Char.ofNat 0xfffd else Char.ofNat c)

def append (p q : Points) : Points := ⟨p.toList ++ q.toList⟩

instance : Append Points := ⟨append⟩

def empty : Points := ⟨[]⟩

def isEmpty (p : Points) : Bool := p.toList.isEmpty

end Points

end JumpMacros.Text
