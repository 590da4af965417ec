import JumpMacros.Text.Quoted

/-!
# UTF-8

Texts as bytes. Decoding accepts exactly the shortest encodings of scalar values; a failure says
which bytes are to blame and why.
-/

namespace JumpMacros.Text

abbrev Bytes := List UInt8

namespace Utf8

/-- The bytes of a character. -/
def encodeChar (c : Char) : Bytes :=
  let n := c.toNat
  let tail (k : Nat) : UInt8 := .ofNat (0x80 + n / k % 64)
  if n < 0x80 then [.ofNat n]
  else if n < 0x800 then [.ofNat (0xc0 + n / 64), tail 1]
  else if n < 0x10000 then [.ofNat (0xe0 + n / 4096), tail 64, tail 1]
  else [.ofNat (0xf0 + n / 262144), tail 4096, tail 64, tail 1]

/-- The bytes of a text. -/
def encode (s : String) : Bytes := s.toList.flatMap encodeChar

/-- Why bytes are not UTF-8. -/
inductive Reason where
  | start
  | continuation
  | truncated
deriving DecidableEq, Repr

def Reason.text : Reason → String
  | .start => "invalid start byte"
  | .continuation => "invalid continuation byte"
  | .truncated => "unexpected end of data"

/-- A failure to decode: the position and value of the first byte to blame, how many are to blame,
and why. -/
structure Failure where
  position : Nat
  byte : UInt8
  count : Nat
  reason : Reason
deriving DecidableEq, Repr

def Failure.message (f : Failure) : String :=
  let what := if f.count = 1 then
      "byte 0x" ++ hexDigits 2 f.byte.toNat ++ " in position " ++ toString f.position
    else "bytes in position " ++ toString f.position ++ "-" ++ toString (f.position + f.count - 1)
  "'utf-8' codec can't decode " ++ what ++ ": " ++ f.reason.text

/-- Whether a byte continues a character. -/
def isTail (b : UInt8) : Bool := 0x80 ≤ b && b < 0xc0

/-- Whether a byte can come second after a given first one: it must not make the encoding longer
than needed, a surrogate, or too large. -/
def isSecond (first b : UInt8) : Bool :=
  isTail b && !(first == 0xe0 && b < 0xa0) && !(first == 0xed && 0xa0 ≤ b) &&
    !(first == 0xf0 && b < 0x90) && !(first == 0xf4 && 0x90 ≤ b)

/-- The six low bits of a byte that continues a character. -/
def low (b : UInt8) : Nat := b.toNat - 0x80

/-- Decodes the bytes from a position on. -/
def decodeFrom (at_ : Nat) : Bytes → Except Failure (List Char)
  | [] => .ok []
  | a :: as =>
    if a < 0x80 then (decodeFrom (at_ + 1) as).map (Char.ofNat a.toNat :: ·)
    else if a < 0xc2 || 0xf5 ≤ a then .error ⟨at_, a, 1, .start⟩
    else
      match as with
      | [] => .error ⟨at_, a, 1, .truncated⟩
      | b :: bs =>
        if !isSecond a b then .error ⟨at_, a, 1, .continuation⟩
        else if a < 0xe0 then
          (decodeFrom (at_ + 2) bs).map (Char.ofNat ((a.toNat - 0xc0) * 64 + low b) :: ·)
        else
          match bs with
          | [] => .error ⟨at_, a, 2, .truncated⟩
          | c :: cs =>
            if !isTail c then .error ⟨at_, a, 2, .continuation⟩
            else if a < 0xf0 then
              (decodeFrom (at_ + 3) cs).map
                (Char.ofNat ((a.toNat - 0xe0) * 4096 + low b * 64 + low c) :: ·)
            else
              match cs with
              | [] => .error ⟨at_, a, 3, .truncated⟩
              | d :: ds =>
                if !isTail d then .error ⟨at_, a, 3, .continuation⟩
                else
                  (decodeFrom (at_ + 4) ds).map
                    (Char.ofNat ((a.toNat - 0xf0) * 262144 + low b * 4096 + low c * 64 + low d) :: ·)

/-- The text of bytes. -/
def decode (bs : Bytes) : Except Failure String := (decodeFrom 0 bs).map String.ofList

end Utf8

/-- A text with every line end written as `\n`: `\r\n` and a lone `\r` are line ends too. -/
def unifyLineEnds : List Char → List Char
  | [] => []
  | '\r' :: '\n' :: cs => '\n' :: unifyLineEnds cs
  | '\r' :: cs => '\n' :: unifyLineEnds cs
  | c :: cs => c :: unifyLineEnds cs

end JumpMacros.Text
