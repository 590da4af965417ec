import JumpMacros.Unicode.CharacterName
import JumpMacros.Text.Points
import JumpMacros.Token.Number

/-!
# Escapes

What the characters between the quotes of a string literal stand for.
-/

namespace JumpMacros.Escape

open Text (Points)

/-- The escapes of one letter. -/
def letterValue : Char → Option Nat
  | '\\' => some 0x5c
  | '\x27' => some 0x27
  | '"' => some 0x22
  | 'a' => some 0x07
  | 'b' => some 0x08
  | 'f' => some 0x0c
  | 'n' => some 0x0a
  | 'r' => some 0x0d
  | 't' => some 0x09
  | 'v' => some 0x0b
  | _ => none

def isOctal (c : Char) : Bool := '0' ≤ c && c < '8'

/-- The number written by exactly `n` hexadecimal digits, and what follows them. -/
def hexNumber (n : Nat) (cs : List Char) : Option (Nat × List Char) :=
  let ds := cs.take n
  if ds.length = n && ds.all Number.isHexDigit then some (Number.digitsValue 16 ds, cs.drop n)
  else none

/-- How many digits the numbered escapes of a text have. -/
def hexWidth : Char → Option Nat
  | 'x' => some 2
  | 'u' => some 4
  | 'U' => some 8
  | _ => none

/-- The fault of an escape that stands for nothing; its places count from the start of the
literal. -/
def undecodable (start stop : Nat) (reason : String) : FaultKind :=
  .other ("(unicode error) 'unicodeescape' codec can't decode bytes in position " ++
    toString start ++ "-" ++ toString stop ++ ": " ++ reason)

/-- The fault of a numbered escape without enough digits. -/
def truncated (mark : Char) (start digits : Nat) : FaultKind :=
  let shape := match mark with
    | 'x' => "\\xXX"
    | 'u' => "\\uXXXX"
    | _ => "\\UXXXXXXXX"
  undecodable start (start + digits + 1) ("truncated " ++ shape ++ " escape")

/-- How many places a character takes: beyond ASCII it counts like a numbered escape. -/
def width (c : Char) : Nat := if c.toNat < 128 then 1 else 10

/-- How many places the characters of a name take. -/
def widths (cs : List Char) : Nat := cs.foldl (fun n c => n + width c) 0

/-- Reads an escape by name, behind its letter: the character, how many places the name takes with
its braces, and what follows. -/
def named (start : Nat) : List Char → Except FaultKind (Nat × Nat × List Char)
  | '\x7b' :: cs =>
    let name := cs.takeWhile (· != '\x7d')
    let stop := start + 2 + widths name
    match cs.drop name.length with
    | [] => .error (undecodable start stop "malformed \\N character escape")
    | _ :: rest =>
      if name.isEmpty then .error (undecodable start stop "malformed \\N character escape")
      else
        match Text.characterNamed? (String.ofList name) with
        | some v => .ok (v, widths name + 2, rest)
        | none => .error (undecodable start (stop + 1) "unknown Unicode character name")
  | _ => .error (undecodable start (start + 1) "malformed \\N character escape")

/-- Reads the characters of a text literal; the count is the number of places read so far. Each
step reads a character, so the length of the text bounds the steps. -/
def points : Nat → Nat → List Char → Except FaultKind (List Nat)
  | 0, _, _ => .ok []
  | _, _, [] => .ok []
  | fuel + 1, at_, '\\' :: c :: cs =>
    if c == '\n' then points fuel (at_ + 2) cs
    else
      match letterValue c with
      | some v => (points fuel (at_ + 2) cs).map (v :: ·)
      | none =>
        if isOctal c then
          let more := (cs.take 2).takeWhile isOctal
          (points fuel (at_ + 2 + more.length) (cs.drop more.length)).map
            (Number.digitsValue 8 (c :: more) :: ·)
        else
          match hexWidth c with
          | some n =>
            match hexNumber n cs with
            | some (v, rest) =>
              if v < 0x110000 then (points fuel (at_ + 2 + n) rest).map (v :: ·)
              else .error (undecodable at_ (at_ + 9) "illegal Unicode character")
            | none =>
              .error (truncated c at_ ((cs.take n).takeWhile Number.isHexDigit).length)
          | none =>
            if c == 'N' then
              match named at_ cs with
              | .ok (v, n, rest) => (points fuel (at_ + 2 + n) rest).map (v :: ·)
              | .error e => .error e
            else
              -- a backslash before a character beyond ASCII is numbered too
              let lead := if c.toNat < 128 then 1 else 6
              (points fuel (at_ + lead + width c) cs).map fun r => 0x5c :: c.toNat :: r
  | fuel + 1, at_, c :: cs => (points fuel (at_ + width c) cs).map (c.toNat :: ·)

/-- The value of a text literal. -/
def text (raw : Bool) (cs : List Char) : Except FaultKind Points :=
  if raw then .ok ⟨cs.map Char.toNat⟩ else (points (cs.length + 1) 0 cs).map Points.mk

/-- Reads the characters of a bytes literal that is not raw. -/
def byteValues : Nat → Nat → List Char → Except FaultKind (List Nat)
  | 0, _, _ => .ok []
  | _, _, [] => .ok []
  | fuel + 1, at_, '\\' :: c :: cs =>
    if c == '\n' then byteValues fuel (at_ + 2) cs
    else
      match letterValue c with
      | some v => (byteValues fuel (at_ + 2) cs).map (v :: ·)
      | none =>
        if isOctal c then
          let more := (cs.take 2).takeWhile isOctal
          (byteValues fuel (at_ + 2 + more.length) (cs.drop more.length)).map
            (Number.digitsValue 8 (c :: more) % 256 :: ·)
        else if c == 'x' then
          match hexNumber 2 cs with
          | some (v, rest) => (byteValues fuel (at_ + 4) rest).map (v :: ·)
          | none => .error (.other ("(value error) invalid \\x escape at position " ++ toString at_))
        else (byteValues fuel (at_ + 2) cs).map fun r => 0x5c :: c.toNat :: r
  | fuel + 1, at_, c :: cs => (byteValues fuel (at_ + 1) cs).map (c.toNat :: ·)

/-- The value of a bytes literal. -/
def bytes (raw : Bool) (cs : List Char) : Except FaultKind (List Nat) :=
  if cs.any (·.toNat ≥ 128) then
    .error .wideBytes
  else if raw then .ok (cs.map Char.toNat) else byteValues (cs.length + 1) 0 cs

end JumpMacros.Escape
