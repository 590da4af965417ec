import JumpMacros.Text.Identifier
import JumpMacros.Text.PrintableTable

/-!
# Printable code points

A code point is printable when a quoted text shows it as it is. In ASCII these are the
characters from the space to the tilde.
-/

namespace JumpMacros.Text

/-- Whether a code point is shown as it is in a quoted text. -/
def isPrintable (c : Nat) : Bool :=
  if c < 128 then 0x20 ≤ c && c < 0x7f else !inRanges unprintableRanges c

end JumpMacros.Text
