import JumpMacros.Text.IdentifierTable

/-!
# Identifiers

An identifier is a non-empty text whose first character may start one and whose other
characters may continue one. Reserved words count as identifiers here: whether a word is
reserved is decided where words are read.
-/

namespace JumpMacros.Text

/-- Membership in a list of inclusive ranges of code points. -/
def inRanges (ranges : List (Nat × Nat)) (c : Nat) : Bool :=
  ranges.any fun (lo, hi) => lo ≤ c && c ≤ hi

/-- The characters an identifier may start with. -/
def isIdentStart (c : Char) : Bool :=
  if c.toNat < 128 then c.isAlpha || c == '_' else inRanges startRanges c.toNat

/-- The characters that may follow in an identifier. -/
def isIdentRest (c : Char) : Bool :=
  if c.toNat < 128 then c.isAlphanum || c == '_' else inRanges continueRanges c.toNat

/-- Whether a sequence of characters is an identifier. -/
def isIdentChars : List Char → Bool
  | [] => false
  | c :: cs => isIdentStart c && cs.all isIdentRest

/-- Whether a text is an identifier. -/
def isIdentifier (s : String) : Bool := isIdentChars s.toList

/-- Splits a text at each full stop; `n` stops give `n + 1` parts. -/
def dottedParts (s : String) : List String := s.splitOn "."

/-- Identifiers joined by full stops. -/
def isDottedIdentifier (s : String) : Bool := (dottedParts s).all isIdentifier

/-- The part of a dotted name before its first full stop. -/
def rootOf (s : String) : String := String.ofList (s.toList.takeWhile (· != '.'))

end JumpMacros.Text
