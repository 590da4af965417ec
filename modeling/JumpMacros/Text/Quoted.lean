import JumpMacros.Text.Points
import JumpMacros.Text.Printable

/-!
# Quoted text

The written form of a text between quotes. The single quote is preferred; the double quote is
used for a text that holds a single quote and no double one. Backslashes, the chosen quote and
code points without a printed form are escaped.
-/

namespace JumpMacros.Text

/-- The lower-case hexadecimal digits of a number, padded with zeros to a least width. -/
def hexDigits (width n : Nat) : String :=
  let ds := Nat.toDigits 16 n
  String.ofList (List.replicate (width - ds.length) '0' ++ ds)

/-- The backslash escape of a code point: a short one where there is one, else by number. -/
def escapePoint (c : Nat) : String :=
  if c = 0x5c then "\\\\"
  else if c = 0x09 then "\\t"
  else if c = 0x0a then "\\n"
  else if c = 0x0d then "\\r"
  else if c < 0x100 then "\\x" ++ hexDigits 2 c
  else if c < 0x10000 then "\\u" ++ hexDigits 4 c
  else "\\U" ++ hexDigits 8 c

/-- A code point inside quotes of the given kind. -/
def quotedPoint (quote c : Nat) : String :=
  if c = quote then "\\" ++ String.singleton (Char.ofNat c)
  else if c = 0x5c || !isPrintable c then escapePoint c
  else String.singleton (Char.ofNat c)

/-- The code point of the quote a text is written in. -/
def quoteOf (cs : List Nat) : Nat :=
  if cs.contains 0x27 && !cs.contains 0x22 then 0x22 else 0x27

/-- What stands between the quotes of a quoted text. -/
def quotedBody (cs : List Nat) : String := String.join (cs.map (quotedPoint (quoteOf cs)))

/-- The quoted form of a text. -/
def quotedPoints (cs : List Nat) : String :=
  let q := String.singleton (Char.ofNat (quoteOf cs))
  q ++ quotedBody cs ++ q

/-- The quoted form of a text without lone surrogates. -/
def quoted (s : String) : String := quotedPoints (s.toList.map Char.toNat)

/-- A byte inside quotes of the given kind; bytes outside ASCII are escaped. -/
def quotedByte (quote b : Nat) : String :=
  if b = quote then "\\" ++ String.singleton (Char.ofNat b)
  else if b = 0x5c || b < 0x20 || 0x7f ≤ b then escapePoint b
  else String.singleton (Char.ofNat b)

/-- The quoted form of a byte string. -/
def quotedBytes (bs : List Nat) : String :=
  let q := quoteOf bs
  let mark := String.singleton (Char.ofNat q)
  "b" ++ mark ++ String.join (bs.map (quotedByte q)) ++ mark

end JumpMacros.Text
