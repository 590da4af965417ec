import JumpMacros.Text.Utf8

/-!
# Encoded source files

The bytes of a source file say themselves how they are encoded: by a byte order mark, or by a
comment on one of the first two lines that declares an encoding. Without either they are UTF-8.
-/

namespace JumpMacros.Text

/-- The encodings of source files. -/
inductive Encoding where
  | utf8
  | latin1
  | ascii
deriving DecidableEq, Repr

/-- Why the bytes of a source file have no text. -/
inductive DecodeError where
  /-- A line that could declare an encoding is not UTF-8. -/
  | declaration
  | unknown (name : String)
  /-- The byte order mark of UTF-8 goes with the declaration of another encoding. -/
  | conflict
  | utf8 (f : Utf8.Failure)
  | ascii (position : Nat) (byte : UInt8)
deriving DecidableEq, Repr

namespace DecodeError

/-- Whether the declaration of the encoding is at fault, and not the bytes. -/
def isDeclared : DecodeError → Bool
  | .utf8 _ | .ascii _ _ => false
  | _ => true

def message : DecodeError → String
  | .declaration => "invalid or missing encoding declaration"
  | .unknown n => "unknown encoding: " ++ n
  | .conflict => "encoding problem: utf-8"
  | .utf8 f => f.message
  | .ascii p b =>
    "'ascii' codec can't decode byte 0x" ++ hexDigits 2 b.toNat ++ " in position " ++ toString p ++
      ": ordinal not in range(128)"

end DecodeError

namespace Encoding

/-- A name in lower case with dashes for underscores, cut to the length that matters. -/
def normalName (s : String) : String :=
  String.ofList ((s.toList.take 12).map fun c => if c == '_' then '-' else c.toLower)

/-- Whether a name is one of some names, or one of them with a dash and more behind it. -/
def isVariant (names : List String) (s : String) : Bool :=
  names.any fun n => s == n || s.startsWith (n ++ "-")

/-- The encoding with a name. Only the first spelling of a name is its proper one. -/
def ofName? (s : String) : Option Encoding :=
  let n := normalName s
  if isVariant ["utf-8"] n || ["utf8", "u8", "utf"].contains n then some .utf8
  else if isVariant ["latin-1", "iso-8859-1", "iso-latin-1"] n ||
      ["latin1", "l1", "iso8859-1", "iso8859", "8859", "cp819", "latin"].contains n then some .latin1
  else if ["ascii", "us-ascii", "646"].contains n then some .ascii
  else none

/-- Whether a name is the proper name of UTF-8. -/
def isUtf8Name (s : String) : Bool := isVariant ["utf-8"] (normalName s)

/-- Whether a character can stand in the name of an encoding. -/
def isNameChar (c : Char) : Bool := c.isAlphanum || c == '-' || c == '_' || c == '.'

def isBlank (c : Char) : Bool := c == ' ' || c == '\t' || c == '\x0c'

/-- The name that is declared at the front of a text. -/
def declaredHere (cs : List Char) : Option String :=
  if cs.take 6 == "coding".toList then
    match cs.drop 6 with
    | c :: rest =>
      let name := (rest.dropWhile fun x => x == ' ' || x == '\t').takeWhile isNameChar
      if (c == ':' || c == '=') && !name.isEmpty then some (String.ofList name) else none
    | [] => none
  else none

/-- The first name that is declared somewhere in a text. -/
def declaredIn : List Char → Option String
  | [] => none
  | c :: cs => declaredHere (c :: cs) <|> declaredIn cs

/-- The name of the encoding that a line declares: the line must be a comment. -/
def declared (line : List Char) : Option String :=
  match line.dropWhile isBlank with
  | '#' :: rest => declaredIn rest
  | _ => none

/-- Whether a line is blank or a comment. -/
def isBlankLine (line : List Char) : Bool :=
  match line.dropWhile isBlank with
  | [] => true
  | c :: _ => c == '#' || c == '\r' || c == '\n'

end Encoding

/-- The bytes of the first line, its end included. -/
def firstLine (bs : Bytes) : Bytes :=
  bs.takeWhile (· != 10) ++ (bs.dropWhile (· != 10)).take 1

/-- The byte order mark of UTF-8. -/
def byteOrderMark : Bytes := [0xef, 0xbb, 0xbf]

/-- The encoding a line declares, if it declares one. -/
def lineEncoding (hasMark : Bool) (line : Bytes) : Except DecodeError (Option Encoding × Bool) :=
  match Utf8.decode line with
  | .error _ => .error .declaration
  | .ok s =>
    match Encoding.declared s.toList with
    | none => .ok (none, Encoding.isBlankLine s.toList)
    | some name =>
      match Encoding.ofName? name with
      | none => .error (.unknown name)
      | some e =>
        if hasMark && !Encoding.isUtf8Name name then .error .conflict else .ok (some e, false)

/-- The encoding of a source file without its byte order mark. A second line is looked at only
below a first one that is blank or a comment. -/
def detect (hasMark : Bool) (bs : Bytes) : Except DecodeError Encoding := do
  let first := firstLine bs
  if first.isEmpty then return .utf8
  match ← lineEncoding hasMark first with
  | (some e, _) => return e
  | (none, false) => return .utf8
  | (none, true) =>
    let second := firstLine (bs.drop first.length)
    if second.isEmpty then return .utf8
    return (← lineEncoding hasMark second).1.getD .utf8

/-- The characters of bytes in an encoding. -/
def Encoding.decode : Encoding → Bytes → Except DecodeError (List Char)
  | .utf8, bs =>
    match Utf8.decodeFrom 0 bs with
    | .ok cs => .ok cs
    | .error f => .error (.utf8 f)
  | .latin1, bs => .ok (bs.map fun b => Char.ofNat b.toNat)
  | .ascii, bs =>
    match bs.findIdx? (0x80 ≤ ·) with
    | some i => .error (.ascii i (bs.getD i 0))
    | none => .ok (bs.map fun b => Char.ofNat b.toNat)

/-- A text without a carriage return at its very end: the line feed it may belong to never comes. -/
def dropPending (cs : List Char) : List Char := if cs.getLast? == some '\r' then cs.dropLast else cs

/-- The text of a source file with its line ends unified. -/
def decodeSource (bs : Bytes) : Except DecodeError String := do
  let hasMark := bs.take 3 == byteOrderMark
  let body := if hasMark then bs.drop 3 else bs
  let e ← detect hasMark body
  return String.ofList (unifyLineEnds (dropPending (← e.decode body)))

end JumpMacros.Text
