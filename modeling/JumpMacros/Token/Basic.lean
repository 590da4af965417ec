import JumpMacros.Token.Fault
import JumpMacros.Tree.Expr

/-!
# Tokens

The words, literals and marks a source text is made of, and the line ends, indents and dedents
that give it its blocks.
-/

namespace JumpMacros

/-- A string literal as written: its marks, the characters between its quotes, and the number of
characters before those. -/
structure RawString where
  isBytes : Bool
  isRaw : Bool
  isFormatted : Bool
  isMarked : Bool
  lead : Nat
  body : List Char
deriving DecidableEq, Repr

inductive TokenKind where
  /-- An identifier, in normal form and as it is written. -/
  | name (id written : String)
  /-- A reserved word. -/
  | word (w : String)
  /-- A number, and how many digits a whole number in decimal has been written with. -/
  | number (c : Constant) (digits : Nat)
  | string (s : RawString)
  | mark (m : String)
  | newline
  | indent
  | dedent
  | finish
  /-- The place from which on the text cannot be scanned, and the bracket that is open there. -/
  | broken (f : Fault) (missed : Option Fault)
deriving DecidableEq, Repr

/-- The lines that a line goes on from, because a backslash or a string literal joins them: the
text from the first of them on, and how many of its characters come before the line. -/
structure JoinedLines where
  text : List Char
  before : Nat
deriving DecidableEq, Repr

namespace JoinedLines

/-- The index of the character that holds a byte of a text. -/
def indexAt : Nat → List Char → Nat
  | n, c :: cs => if n < c.utf8Size then 0 else indexAt (n - c.utf8Size) cs + 1
  | _, [] => 0

/-- The column of a fault on the last of joined lines: its column in bytes is looked up in the
first of them. -/
def shown (j : JoinedLines) (col : Nat) : Nat :=
  let bytes := ((j.text.drop j.before).take col).foldl (fun n c => n + c.utf8Size) 0
  indexAt bytes j.text

end JoinedLines

/-- A token with its place: columns in bytes, the column of its start in characters as a fault
shows it, how many brackets are open behind it, and the lines that its line goes on from. -/
structure Token where
  kind : TokenKind
  start : Position
  stop : Position
  shown : Option Nat
  level : Nat
  joined : Option JoinedLines
deriving DecidableEq, Repr

/-- The column of the last character of a token, as a fault shows it. -/
def Token.shownLast (t : Token) : Option Nat :=
  let width := match t.kind with
    | .name _ written => written.length
    | _ => t.stop.col - t.start.col
  t.shown.map fun c => c + width - 1

instance : Inhabited Token := ⟨⟨.finish, default, default, none, 0, none⟩⟩

/-- The reserved words. -/
def reservedWords : List String :=
  ["False", "None", "True", "and", "as", "assert", "async", "await", "break", "class", "continue",
    "def", "del", "elif", "else", "except", "finally", "for", "from", "global", "if", "import",
    "in", "is", "lambda", "nonlocal", "not", "or", "pass", "raise", "return", "try", "while",
    "with", "yield"]

end JumpMacros
