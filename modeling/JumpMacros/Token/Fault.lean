import JumpMacros.Decimal.Whole
import JumpMacros.Text.Quoted

/-!
# Faults in a source text

Why a text is no module, and where. Each cause has one wording, `FaultKind.message`.
-/

namespace JumpMacros

open Text (hexDigits)

/-- The ways in which a text can fail to be a module. -/
inductive FaultKind where
  | invalid
  | expected (token : String)
  | neverClosed (opener : Char)
  | unmatched (closer : Char)
  | mismatched (closer opener : Char) (line : Option Nat)
  | unterminated (triple : Bool) (line : Nat)
  | unexpectedIndent
  | unexpectedUnindent
  | looseUnindent
  | mixedIndent
  | tooDeep
  | missingBlock (header : String) (line : Nat)
  | unprintable (c : Nat)
  | badCharacter (c : Nat)
  | badNumber (kind : String)
  | badDigit (digit : Char) (kind : String)
  | leadingZeros
  | wideBytes
  | afterContinuation
  | unexpectedEnd
  | badTarget (verb : String) (what : String)
  | maybeEquality (what : String)
  | tooManyDigits (count : Nat)
  | other (message : String)
deriving DecidableEq, Repr

/-- The four upper-case hexadecimal digits of a code point, or more if it needs them. -/
def pointNumber (c : Nat) : String := (hexDigits 4 c).map Char.toUpper

def FaultKind.message : FaultKind → String
  | .invalid => "invalid syntax"
  | .expected t => "expected '" ++ t ++ "'"
  | .neverClosed c => "'" ++ c.toString ++ "' was never closed"
  | .unmatched c => "unmatched '" ++ c.toString ++ "'"
  | .mismatched c o line =>
    let base := "closing parenthesis '" ++ c.toString ++ "' does not match opening parenthesis '" ++
      o.toString ++ "'"
    match line with
    | none => base
    | some l => base ++ " on line " ++ toString l
  | .unterminated triple line =>
    "unterminated " ++ (if triple then "triple-quoted " else "") ++
      "string literal (detected at line " ++ toString line ++ ")"
  | .unexpectedIndent => "unexpected indent"
  | .unexpectedUnindent => "unexpected unindent"
  | .looseUnindent => "unindent does not match any outer indentation level"
  | .mixedIndent => "inconsistent use of tabs and spaces in indentation"
  | .tooDeep => "too many levels of indentation"
  | .missingBlock h line =>
    "expected an indented block after " ++ h ++ " on line " ++ toString line
  | .unprintable c => "invalid non-printable character U+" ++ pointNumber c
  | .badCharacter c =>
    "invalid character '" ++ (Char.ofNat c).toString ++ "' (U+" ++ pointNumber c ++ ")"
  | .badNumber kind => "invalid " ++ kind ++ " literal"
  | .badDigit d kind => "invalid digit '" ++ d.toString ++ "' in " ++ kind ++ " literal"
  | .leadingZeros =>
    "leading zeros in decimal integer literals are not permitted; " ++
      "use an 0o prefix for octal integers"
  | .wideBytes => "bytes can only contain ASCII literal characters"
  | .afterContinuation => "unexpected character after line continuation character"
  | .unexpectedEnd => "unexpected EOF while parsing"
  | .badTarget verb what => "cannot " ++ verb ++ " " ++ what
  | .maybeEquality what =>
    "cannot assign to " ++ what ++ " here. Maybe you meant '==' instead of '='?"
  | .tooManyDigits n =>
    Decimal.tooLongToRead n ++ " - Consider hexadecimal " ++
      "for huge integer literals to avoid decimal conversion limits."
  | .other m => m

/-- Whether a fault of scanning is told even if reading failed before it. What is wrong with the
indentation, at the end of a line or at the end of the text can be seen only by a reader that
gets there. -/
def FaultKind.isUrgent : FaultKind → Bool
  | .looseUnindent | .mixedIndent | .tooDeep | .afterContinuation | .unexpectedEnd
  | .neverClosed _ => false
  | _ => true

/-- Whether a fault is found while a text is cut into tokens. -/
def FaultKind.isScanned : FaultKind → Bool
  | .unmatched _ | .mismatched _ _ _ | .unterminated _ _ | .unprintable _ | .badCharacter _
  | .badNumber _ | .badDigit _ _ | .leadingZeros => true
  | _ => false

/-- A fault with its place: the line, and the column in characters if there is one. -/
structure Fault where
  kind : FaultKind
  line : Nat
  col : Option Nat
deriving DecidableEq, Repr

end JumpMacros
