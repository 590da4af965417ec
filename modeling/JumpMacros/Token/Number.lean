import JumpMacros.Token.Basic

/-!
# Numbers

A number literal is read from the front of a text. Digits may be grouped by single underscores.
A fault is reported after the characters that could still belong to the number.
-/

namespace JumpMacros.Number

open Decimal (Binary64)

/-- A read number, what follows it, and with how many decimal digits a whole number was
written. -/
structure Read where
  value : Constant
  rest : List Char
  digits : Nat

/-- A fault, and what followed when it was noticed. -/
structure Stop where
  kind : FaultKind
  rest : List Char

abbrev Result := Except Stop Read

/-- The fault of a text that goes on where a digit of a base is needed. A digit of a larger base is
told apart. -/
def noDigit (kind : String) (cs : List Char) : Stop :=
  match cs with
  | c :: rest => if c.isDigit then ⟨.badDigit c kind, rest⟩ else ⟨.badNumber kind, cs⟩
  | [] => ⟨.badNumber kind, []⟩

/-- The longest run of digits, single underscores between them left out. An underscore that no
digit follows is a fault. -/
def digitTail (isDigit : Char → Bool) (kind : String) :
    List Char → Except Stop (List Char × List Char)
  | [] => .ok ([], [])
  | '_' :: c :: cs =>
    if isDigit c then (digitTail isDigit kind cs).map fun (ds, rest) => (c :: ds, rest)
    else .error (noDigit kind (c :: cs))
  | c :: cs =>
    if isDigit c then (digitTail isDigit kind cs).map fun (ds, rest) => (c :: ds, rest)
    else if c == '_' then .error ⟨.badNumber kind, cs⟩
    else .ok ([], c :: cs)

/-- The value of a digit up to `f`. -/
def digitValue (c : Char) : Nat :=
  if c.isDigit then c.toNat - 48
  else if 'a' ≤ c && c ≤ 'f' then c.toNat - 87
  else c.toNat - 55

def digitsValue (base : Nat) (ds : List Char) : Nat :=
  ds.foldl (fun n c => n * base + digitValue c) 0

/-- Whether a character can belong to a word. -/
def isWordChar (c : Char) : Bool := c.isAlphanum || c == '_' || c.toNat ≥ 128

/-- Whether a character can belong to a number or to a word behind it. -/
def isNumeralChar (c : Char) : Bool := isWordChar c || c == '.' || c == '+' || c == '-'

/-- The reserved words that may follow a number without a blank, if the word ends there. -/
def joinedWords : List String := ["and", "else", "for", "or", "not"]

/-- The reserved words that may follow a number without a blank, whatever comes after them. -/
def joinedStarts : List String := ["if", "in", "is"]

/-- Whether a text starts with a word that may be joined to a number. -/
def startsJoined (rest : List Char) : Bool :=
  (joinedStarts.any fun w => w.toList.isPrefixOf rest) ||
    joinedWords.any fun w =>
      w.toList.isPrefixOf rest && !((rest.drop w.length).head?.map isWordChar).getD false

/-- A number must not run into a word of plain letters, some reserved words excepted. -/
def finish (kind : String) (value : Constant) (rest : List Char) : Result :=
  match rest with
  | [] => .ok ⟨value, rest, 0⟩
  | c :: _ =>
    if startsJoined rest then .ok ⟨value, rest, 0⟩
    else if isWordChar c && c.toNat < 128 then .error ⟨.badNumber kind, rest⟩
    else .ok ⟨value, rest, 0⟩

def isHexDigit (c : Char) : Bool :=
  c.isDigit || ('a' ≤ c && c ≤ 'f') || ('A' ≤ c && c ≤ 'F')

/-- The digits of a number with a base mark. -/
def based (base : Nat) (kind : String) (isDigit : Char → Bool) (cs : List Char) : Result := do
  let cs := match cs with
    | '_' :: rest => rest
    | _ => cs
  if !(cs.head?.map isDigit).getD false then throw (noDigit kind cs)
  let (ds, rest) ← digitTail isDigit kind cs
  if (rest.head?.map Char.isDigit).getD false then throw (noDigit kind rest)
  finish kind (.int (digitsValue base ds)) rest

/-- An exponent part, if the text has one: its value and what follows. -/
def exponent? (cs : List Char) : Except Stop (Option (Int × List Char)) := do
  let (sign, signed, ds) : Int × Bool × List Char := match cs with
    | _ :: '+' :: r => (1, true, r)
    | _ :: '-' :: r => (-1, true, r)
    | _ :: r => (1, false, r)
    | [] => (1, false, [])
  match cs with
  | e :: _ =>
    if e == 'e' || e == 'E' then
      if (ds.head?.map Char.isDigit).getD false then
        let (digits, rest) ← digitTail Char.isDigit "decimal" ds
        return some (sign * Int.ofNat (digitsValue 10 digits), rest)
      else if signed then throw ⟨.badNumber "decimal", ds⟩
      else return none
    else return none
  | [] => return none

/-- What may follow the digits before and after the point: an exponent, and a `j`. -/
def realTail (whole frac : List Char) (isReal : Bool) (rest : List Char) : Result := do
  let (scale, hasExponent, rest) := match ← exponent? rest with
    | some (k, r) => (k, true, r)
    | none => (0, false, rest)
  let digits := digitsValue 10 (whole ++ frac)
  let value := Binary64.ofDecimal digits (scale - Int.ofNat frac.length)
  match rest with
  | c :: r =>
    if c == 'j' || c == 'J' then return ← finish "imaginary" (.imaginary value) r
  | [] => pure ()
  if isReal || hasExponent then finish "decimal" (.float value) rest
  else
    let out ← finish "decimal" (.int digits) rest
    return { out with digits := if digits = 0 then 0 else whole.length }

/-- The digits after a point. -/
def fraction (whole cs : List Char) : Result := do
  let (frac, rest) ←
    if (cs.head?.map Char.isDigit).getD false then digitTail Char.isDigit "decimal" cs
    else pure ([], cs)
  realTail whole frac true rest

/-- Reads a number that starts with a digit, or with a point and a digit. -/
def read (cs : List Char) : Result := do
  match cs with
  | '0' :: 'x' :: r | '0' :: 'X' :: r => based 16 "hexadecimal" isHexDigit r
  | '0' :: 'o' :: r | '0' :: 'O' :: r => based 8 "octal" (fun c => '0' ≤ c && c < '8') r
  | '0' :: 'b' :: r | '0' :: 'B' :: r => based 2 "binary" (fun c => c == '0' || c == '1') r
  | '.' :: r => fraction [] r
  | _ =>
    let (whole, rest) ← digitTail Char.isDigit "decimal" cs
    match rest with
    | '.' :: r => fraction whole r
    | _ =>
      let leading := whole.head? == some '0' && whole.any (· != '0')
      let goesOn := (rest.head?.map fun c => "eEjJ".toList.contains c).getD false
      if leading && !goesOn then throw ⟨.leadingZeros, cs.drop 1⟩
      let out ← realTail whole [] false rest
      -- Digits after a zero that run into `else` are read as a real number.
      match out.value with
      | .int n =>
        return if leading then { out with value := .float (Binary64.ofDecimal n 0) } else out
      | _ => return out

end JumpMacros.Number
