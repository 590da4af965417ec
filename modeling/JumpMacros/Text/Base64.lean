import JumpMacros.Text.Quoted

/-!
# Base 64

Bytes written with 64 digits, four digits for three bytes. An equals sign pads a group that has
fewer digits; the padding that completes a group ends the text. Other characters that are no
digits have no meaning, so that the text can be spread over lines.
-/

namespace JumpMacros.Text.Base64

/-- The value of a digit. -/
def digit? (c : Char) : Option Nat :=
  if 'A' ≤ c && c ≤ 'Z' then some (c.toNat - 65)
  else if 'a' ≤ c && c ≤ 'z' then some (c.toNat - 71)
  else if c.isDigit then some (c.toNat + 4)
  else if c == '+' then some 62
  else if c == '/' then some 63
  else none

/-- The digits of a text that comes after a number of digits and a number of pads behind the last
of them, and whether padding completes their last group. -/
def digits (count pads : Nat) : List Char → List Nat × Bool
  | [] => ([], false)
  | c :: cs =>
    if c == '=' then
      if 2 ≤ count % 4 && 4 ≤ count % 4 + pads + 1 then ([], true) else digits count (pads + 1) cs
    else
      match digit? c with
      | some d =>
        let (ds, isPadded) := digits (count + 1) 0 cs
        (d :: ds, isPadded)
      | none => digits count pads cs

/-- The bytes that digits denote; bits that make no whole byte are dropped. -/
def bytes : List Nat → List Nat
  | a :: b :: c :: d :: rest =>
    [a * 4 + b / 16, b % 16 * 16 + c / 4, c % 4 * 64 + d] ++ bytes rest
  | [a, b, c] => [a * 4 + b / 16, b % 16 * 16 + c / 4]
  | [a, b] => [a * 4 + b / 16]
  | _ => []

/-- Why a text is not base 64: it holds characters outside ASCII, of which the first run is told,
a digit is left over after whole groups, or padding is missing. -/
inductive Failure where
  | notAscii (position : Nat) (first : Char) (count : Nat)
  | leftOver (digits : Nat)
  | padding
deriving DecidableEq, Repr

def Failure.message : Failure → String
  | .notAscii p c n =>
    let what := if n = 1 then
        "character '" ++ escapePoint c.toNat ++ "' in position " ++ toString p
      else "characters in position " ++ toString p ++ "-" ++ toString (p + n - 1)
    "failed to convert base64 data into ascii: 'ascii' codec can't encode " ++ what ++
      ": ordinal not in range(128)"
  | .leftOver n =>
    "failed to decode base64 data: Invalid base64-encoded string: number of data characters (" ++
      toString n ++ ") cannot be 1 more than a multiple of 4"
  | .padding => "failed to decode base64 data: Incorrect padding"

/-- The bytes that a text denotes. -/
def decode (cs : List Char) : Except Failure (List Nat) :=
  let isAscii (c : Char) : Bool := c.toNat < 128
  let before := cs.takeWhile isAscii
  match cs.drop before.length with
  | c :: rest =>
    .error (.notAscii before.length c ((rest.takeWhile fun d => !isAscii d).length + 1))
  | [] =>
    let (ds, isPadded) := digits 0 0 cs
    if isPadded || ds.length % 4 = 0 then .ok (bytes ds)
    else if ds.length % 4 = 1 then .error (.leftOver ds.length)
    else .error .padding

end JumpMacros.Text.Base64
