/-!
# Whole numbers in decimal

Whole numbers are read and written in decimal only up to a number of digits, since the time it
takes grows with the square of that number.
-/

namespace JumpMacros.Decimal

/-- The most digits of a whole number that is read or written in decimal. -/
def maxDigits : Nat := 4300

/-- The least number that has too many digits. -/
def tooLarge : Nat := Nat.pow 10 maxDigits

/-- Whether a number has too many digits to be written. -/
def isTooLong (n : Int) : Bool := tooLarge ≤ n.natAbs

/-- The two ends of what is said about a number with too many digits. -/
def exceeds : String :=
  "Exceeds the limit (" ++ toString maxDigits ++ " digits) for integer string conversion"

def raiseLimit : String := "; use sys.set_int_max_str_digits() to increase the limit"

/-- What is said about a number that has too many digits to be written. -/
def tooLongToWrite : String := exceeds ++ raiseLimit

/-- What is said about a number that has too many digits to be read. -/
def tooLongToRead (digits : Nat) : String :=
  exceeds ++ ": value has " ++ toString digits ++ " digits" ++ raiseLimit

end JumpMacros.Decimal
