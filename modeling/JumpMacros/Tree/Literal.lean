import JumpMacros.Decimal.Shortest
import JumpMacros.Text.Quoted
import JumpMacros.Tree.Expr

/-!
# Literals as text

Numbers are written in decimal, with the fewest digits that read back. A string is normally
written by its quoted form; where escapes are to be avoided (in doc strings and in the fields of
formatted strings) it is put between the first quotes that do not occur in it.
-/

namespace JumpMacros

open Text
open Decimal (NumberFormat)

/-- Real literals: no exponent part from `0.0001` up to 16 digits, and a point is always shown.
An infinite value is written as a literal that is too large. -/
def realFormat : NumberFormat := ⟨-4, 15, true, "1e309"⟩

/-- Imaginary literals: as real ones, but a whole number has no point. -/
def imaginaryFormat : NumberFormat := ⟨-4, 15, false, "1e309"⟩

/-- The quotes a string can stand in, the preferred ones first. -/
def allQuotes : List String := ["'", "\"", "\"\"\"", "'''"]

/-- The quotes that may hold line ends. -/
def longQuotes : List String := ["\"\"\"", "'''"]

/-- Whether a text occurs in another. -/
def occursIn (needle hay : List Char) : Bool :=
  match hay with
  | [] => needle.isEmpty
  | c :: cs => needle.isPrefixOf (c :: cs) || occursIn needle cs

/-- A code point of a literal that avoids escapes: line ends and tabs stay as they are unless
they are to be escaped too. -/
def literalPoint (escapeBlanks : Bool) (c : Nat) : String :=
  if !escapeBlanks && (c == 0x0a || c == 0x09) then String.singleton (Char.ofNat c)
  else if c == 0x5c || !isPrintable c then escapePoint c
  else String.singleton (Char.ofNat c)

/-- Whether the first character of `quote` is `c`. -/
def startsWithChar (quote : String) (c : Option Char) : Bool := quote.toList.head? == c

/-- The body of a literal and the quotes that it can stand in, the best ones first. Quotes that
occur in the body are out, and so are short quotes if the body has a line end. Quotes that do not
repeat the last character are preferred; else that character is escaped. If no quotes are left,
the body is that of the quoted form. -/
def literalBody (quotes : List String) (escapeBlanks : Bool) (cs : List Nat) :
    String × List String :=
  let body := String.join (cs.map (literalPoint escapeBlanks))
  let chars := body.toList
  let long := if chars.contains '\n' then quotes.filter longQuotes.contains else quotes
  let free := long.filter fun q => !occursIn q.toList chars
  if free.isEmpty then
    let mark := String.singleton (Char.ofNat (quoteOf cs))
    let quote := (quotes.find? fun q => occursIn mark.toList q.toList).getD mark
    (quotedBody cs, [quote])
  else
    let last := chars.getLast?
    if last.isNone then (body, free)
    else
      let ranked := free.filter (fun q => !startsWithChar q last) ++
        free.filter (fun q => startsWithChar q last)
      match ranked, last with
      | q :: _, some c =>
        if startsWithChar q last then (String.ofList (chars.dropLast ++ ['\\', c]), ranked)
        else (body, ranked)
      | _, _ => (body, ranked)

/-- A string literal written without escapes where that can be done. -/
def literalIn (quotes : List String) (cs : List Nat) : String :=
  let (body, free) := literalBody quotes false cs
  let quote := free.headD "'"
  quote ++ body ++ quote

/-- The text of a constant. With `avoid`, strings are written without escapes. -/
def Constant.text (avoid : Bool) : Constant → String
  | .none => "None"
  | .bool true => "True"
  | .bool false => "False"
  | .ellipsis => "..."
  | .int n => toString n
  | .float x => realFormat.text x
  | .imaginary x => imaginaryFormat.text x ++ "j"
  | .str v marked =>
    (if marked then "u" else "") ++
      (if avoid then literalIn allQuotes v.toList else quotedPoints v.toList)
  | .bytes bs => quotedBytes bs

/-- The text of a doc string: between triple quotes. -/
def docString (v : Points) (marked : Bool) : String :=
  (if marked then "u" else "") ++ literalIn longQuotes v.toList

/-- Whether a constant is written as an integer, so that a full stop after it needs a blank. -/
def Constant.isIntegral : Constant → Bool
  | .int _ | .bool _ => true
  | _ => false

end JumpMacros
