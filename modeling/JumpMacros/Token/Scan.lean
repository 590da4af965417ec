import JumpMacros.Text.Identifier
import JumpMacros.Unicode.Normal
import JumpMacros.Text.Printable
import JumpMacros.Token.Number

/-!
# Scanning

A source text is cut into tokens from left to right. At the start of a line outside brackets the
indentation is compared with the open blocks and gives indents and dedents; blank lines and
comments give nothing; inside brackets line ends are blanks. Where the text cannot be scanned any
further, the last token tells why.
-/

namespace JumpMacros

open Text

/-- A place in the text: what follows, the line, and the column in bytes and in characters. -/
structure Cursor where
  rest : List Char
  line : Nat
  col : Nat
  char : Nat

namespace Cursor

def position (c : Cursor) : Position := ⟨c.line, c.col⟩

/-- Moves past one character. -/
def step (c : Cursor) : Cursor :=
  match c.rest with
  | [] => c
  | x :: xs =>
    if x == '\n' then ⟨xs, c.line + 1, 0, 0⟩
    else ⟨xs, c.line, c.col + x.utf8Size, c.char + 1⟩

/-- Moves past a number of characters. -/
def skip (c : Cursor) : Nat → Cursor
  | 0 => c
  | n + 1 => c.step.skip n

/-- Moves past the characters that pass a test. -/
def skipWhile (c : Cursor) (test : Char → Bool) : Cursor := c.skip (c.rest.takeWhile test).length

/-- A fault noticed after the character before the cursor. -/
def faultBefore (c : Cursor) (kind : FaultKind) : Fault := ⟨kind, c.line, some (c.char - 1)⟩

end Cursor

/-- An open bracket, and its place in characters. -/
structure Bracket where
  opener : Char
  line : Nat
  col : Nat

/-- What scanning knows at a point of the text: the cursor, the widths of the open blocks (tabs
to multiples of eight, and tabs as one), the open brackets, whether a line starts here, the lines
that this one goes on from, and the tokens so far, last first. -/
structure Scanner where
  cursor : Cursor
  blocks : List (Nat × Nat)
  brackets : List Bracket
  fresh : Bool
  joined : JoinedLines
  tokens : List Token

namespace Scanner

def add (s : Scanner) (kind : TokenKind) (start stop : Cursor) : Scanner :=
  let joined := if s.joined.before = 0 then none else some s.joined
  let t : Token :=
    ⟨kind, start.position, stop.position, some start.char, s.brackets.length, joined⟩
  { s with tokens := t :: s.tokens }

/-- Goes to the start of a line that goes on from no other one. -/
def startAt (s : Scanner) (c : Cursor) : Scanner :=
  { s with cursor := c, joined := if c.rest.isEmpty then s.joined else ⟨c.rest, 0⟩ }

/-! ## Line starts -/

/-- The blanks that a line starts with: their width counted in both ways, their number, and the
text from the line on in which they end. -/
structure Indentation where
  wide : Nat
  narrow : Nat
  count : Nat
  line : List Char

/-- The blanks that a line starts with. If the line is continued before anything else, the width
before the first backslash counts, unless it is zero. What follows starts with a backslash only
if that does not continue the line. -/
def indentation (first : Nat) (i : Indentation) : List Char → Indentation
  | ' ' :: cs =>
    indentation first { i with wide := i.wide + 1, narrow := i.narrow + 1, count := i.count + 1 } cs
  | '\t' :: cs =>
    indentation first
      { i with wide := (i.wide / 8 + 1) * 8, narrow := i.narrow + 1, count := i.count + 1 } cs
  | '\x0c' :: cs => indentation first { i with wide := 0, narrow := 0, count := i.count + 1 } cs
  | '\\' :: '\n' :: c :: cs =>
    indentation (if first = 0 then i.wide else first)
      { i with count := i.count + 2, line := c :: cs } (c :: cs)
  | _ => if first = 0 then i else { i with wide := first, narrow := first }

/-- The innermost bracket that is still open, as a fault. -/
def openBracket (brackets : List Bracket) : Option Fault :=
  brackets.head?.map fun b => ⟨.neverClosed b.opener, b.line, some b.col⟩

/-- What is wrong with a backslash at the cursor that continues no line: something stands behind
it, whose place counts from the first of the lines that belong together, or the text ends, where
an open bracket is missed first. -/
def badContinuation (brackets : List Bracket) (joined : Nat) (c : Cursor) : Fault :=
  match c.rest with
  | _ :: '\n' :: _ => (openBracket brackets).getD ⟨.unexpectedEnd, c.line, some (c.char + 1)⟩
  | _ => ⟨.afterContinuation, c.line, some (joined + c.char + 1)⟩

/-- A token for a change of indentation. A fault shows the last blank before it, if any. -/
def blockToken (kind : TokenKind) (c : Cursor) : Token :=
  ⟨kind, c.position, c.position, if c.char = 0 then none else some (c.char - 1), 0, none⟩

/-- The most blocks that can be open. -/
def maxBlocks : Nat := 99

/-- Closes the blocks wider than a line's indentation. -/
def closeBlocks (wide : Nat) : List (Nat × Nat) → Nat × List (Nat × Nat)
  | [] => (0, [])
  | (w, n) :: rest =>
    if wide < w then
      let (k, left) := closeBlocks wide rest
      (k + 1, left)
    else (0, (w, n) :: rest)

/-- The last column of the line at the cursor. -/
def lineEnd (c : Cursor) : Nat := c.char + (c.rest.takeWhile (· != '\n')).length

/-- Compares the indentation of a line that is not blank with the open blocks. -/
def indentLine (s : Scanner) (wide narrow : Nat) (c : Cursor) : Except Fault Scanner :=
  let (topWide, topNarrow) := s.blocks.headD (0, 0)
  let mixed : Fault := ⟨.mixedIndent, c.line, some 0⟩
  if wide = topWide then
    if narrow = topNarrow then .ok { s with cursor := c, fresh := false } else .error mixed
  else if wide > topWide then
    if s.blocks.length ≥ maxBlocks then .error ⟨.tooDeep, c.line, some 0⟩
    else if narrow ≤ topNarrow then .error mixed
    else .ok { s with
      cursor := c
      fresh := false
      blocks := (wide, narrow) :: s.blocks
      tokens := blockToken .indent c :: s.tokens }
  else
    let (k, left) := closeBlocks wide s.blocks
    let (w, n) := left.headD (0, 0)
    if w ≠ wide then .error ⟨.looseUnindent, c.line, some (lineEnd c)⟩
    else if n ≠ narrow then .error mixed
    else .ok { s with
      cursor := c
      fresh := false
      blocks := left
      tokens := List.replicate k (blockToken .dedent c) ++ s.tokens }

/-- Takes up a line: a blank one is passed over. -/
def startLine (s : Scanner) : Except Fault Scanner :=
  let i := indentation 0 ⟨0, 0, 0, s.cursor.rest⟩ s.cursor.rest
  let c := s.cursor.skip i.count
  match c.rest with
  | [] => .ok { s with cursor := c, fresh := false }
  | '\\' :: _ => .error (badContinuation [] 0 c)
  | '\n' :: _ => .ok (s.startAt c.step)
  | '#' :: _ => .ok (s.startAt (c.skipWhile (· != '\n')).step)
  | _ => indentLine { s with joined := ⟨i.line, 0⟩ } i.wide i.narrow c

/-! ## Words and strings -/

/-- Marks that may stand before a string literal. -/
def stringMarks : List String := ["b", "u", "r", "f", "br", "rb", "fr", "rf"]

/-- The characters up to the closing quote; or the number of line ends passed before the literal
turned out not to be closed. -/
def stringBody (quote : Char) (triple : Bool) : List Char → Except Nat (List Char)
  | [] => .error 0
  | '\\' :: c :: cs =>
    match stringBody quote triple cs with
    | .ok body => .ok ('\\' :: c :: body)
    -- behind the last line there is no other one
    | .error n => .error (if c == '\n' && (triple || !cs.isEmpty) then n + 1 else n)
  | c :: cs =>
    let more := match stringBody quote triple cs with
      | .ok body => .ok (c :: body)
      | .error n => .error (if c == '\n' then n + 1 else n)
    if triple then
      if c == quote && cs.take 2 == [quote, quote] then .ok [] else more
    else if c == quote then .ok []
    else if c == '\n' then .error 0
    else more

/-- Scans a string literal whose marks have been read; the cursor is at its quote. -/
def scanString (s : Scanner) (marks : List Char) (start c : Cursor) : Except Fault Scanner :=
  let quote := c.rest.headD '\x27'
  let triple := c.rest.take 3 == [quote, quote, quote]
  let width := if triple then 3 else 1
  match stringBody quote triple (c.rest.drop width) with
  | .ok body =>
    let lower := marks.map Char.toLower
    let raw : RawString := {
      isBytes := lower.contains 'b'
      isRaw := lower.contains 'r'
      isFormatted := lower.contains 'f'
      isMarked := marks == ['u']
      lead := marks.length + width
      body }
    let length := width + body.length + width
    let stop := c.skip length
    let passed := if stop.line = c.line then 0 else c.char + length - stop.char
    let after := { s with joined := { s.joined with before := s.joined.before + passed } }
    .ok { after.add (.string raw) start stop with cursor := stop }
  | .error n =>
    let line := if triple then start.line + n - 1 else start.line + n
    .error ⟨.unterminated triple line, start.line, some start.char⟩

/-- The characters of a word; every character outside ASCII is taken and judged afterwards. -/
def isWordStart (c : Char) : Bool := c.isAlpha || c == '_' || c.toNat ≥ 128

/-- The index of the first character that does not belong into an identifier. -/
def badIndex (cs : List Char) : Option (Nat × Char) :=
  match cs with
  | [] => none
  | c :: rest =>
    if !isIdentStart c then some (0, c)
    else (rest.zipIdx 1).find? (fun (d, _) => !isIdentRest d) |>.map fun (d, i) => (i, d)

/-- Scans a word or a string literal with marks. -/
def scanWord (s : Scanner) (start : Cursor) : Except Fault Scanner :=
  let word := start.rest.takeWhile Number.isWordChar
  let stop := start.skip word.length
  let quoteNext := match stop.rest with
    | c :: _ => c == '"' || c == '\x27'
    | [] => false
  if quoteNext && stringMarks.contains (String.ofList (word.map Char.toLower)) then
    scanString s word start stop
  else
    match badIndex word with
    | some (i, c) =>
      let kind := if isPrintable c.toNat then FaultKind.badCharacter c.toNat
        else .unprintable c.toNat
      .error ⟨kind, start.line, some (start.char + i)⟩
    | none =>
      let text := String.ofList word
      let kind := if reservedWords.contains text then TokenKind.word text
        else .name (normalForm text) text
      .ok { s.add kind start stop with cursor := stop }

/-! ## Marks -/

/-- The marks of more than one character, longer ones first. -/
def longMarks : List String :=
  ["**=", "//=", "<<=", ">>=", "...", "!=", "==", "<=", ">=", "<<", ">>", "<>", "**", "//", "->",
    "+=", "-=", "*=", "/=", "%=", "&=", "|=", "^=", "@=", ":="]

def closerOf : Char → Option Char
  | '(' => some ')'
  | '[' => some ']'
  | '\x7b' => some '\x7d'
  | _ => none

/-- The most brackets that can be open. -/
def maxBrackets : Nat := 200

/-- Keeps the open brackets up to date with a mark of one character. -/
def bracket (s : Scanner) (x : Char) (start stop : Cursor) : Except Fault (List Bracket) :=
  if (closerOf x).isSome then
    if s.brackets.length ≥ maxBrackets then
      .error (stop.faultBefore (.other "too many nested parentheses"))
    else .ok (⟨x, start.line, start.char⟩ :: s.brackets)
  else if x == ')' || x == ']' || x == '\x7d' then
    match s.brackets with
    | [] => .error (stop.faultBefore (.unmatched x))
    | b :: bs =>
      if closerOf b.opener == some x then .ok bs
      else
        let line := if b.line = start.line then none else some b.line
        .error (stop.faultBefore (.mismatched x b.opener line))
  else .ok s.brackets

def scanMark (s : Scanner) (start : Cursor) : Except Fault Scanner :=
  match longMarks.find? fun m => m.toList.isPrefixOf start.rest with
  | some m =>
    let stop := start.skip m.length
    .ok { s.add (.mark m) start stop with cursor := stop }
  | none =>
    match start.rest with
    | [] => .ok s
    | x :: _ =>
      let stop := start.step
      if !isPrintable x.toNat then .error (stop.faultBefore (.unprintable x.toNat))
      else do
        let brackets ← s.bracket x start stop
        return { { s with brackets }.add (.mark x.toString) start stop with cursor := stop }

/-! ## The inside of lines -/

/-- Scans one token, or passes over what separates tokens. -/
def scanInside (s : Scanner) : Except Fault Scanner :=
  let c := s.cursor.skipWhile fun x => x == ' ' || x == '\t' || x == '\x0c'
  -- a comment reaches up to the line end, but the line end's token starts where it did
  let e := if c.rest.head? == some '#' then c.skipWhile (· != '\n') else c
  match e.rest with
  | [] => .ok { s with cursor := e }
  | '\n' :: _ =>
    if s.brackets.isEmpty then .ok { (s.add .newline c e).startAt e.step with fresh := true }
    else .ok (s.startAt e.step)
  | '\\' :: x :: rest =>
    if x != '\n' || rest.isEmpty then .error (badContinuation s.brackets s.joined.before c)
    else
      -- a line that holds nothing else is not gone on from
      let next := c.step.step
      if s.joined.before = 0 && s.cursor.char = 0 then .ok (s.startAt next)
      else .ok { s with
        cursor := next
        joined := { s.joined with before := s.joined.before + c.char + 2 } }
  | x :: rest =>
    let pointDigit := x == '.' && (rest.head?.map Char.isDigit).getD false
    if x.isDigit || pointDigit then
      let numeral := c.rest.takeWhile Number.isNumeralChar
      let skipTo (rest : List Char) := c.skip (numeral.length - rest.length)
      match Number.read numeral with
      | .ok out =>
        let stop := skipTo out.rest
        .ok { s.add (.number out.value out.digits) c stop with cursor := stop }
      -- zeros in front are shown by the column in bytes
      | .error ⟨.leadingZeros, _⟩ => .error ⟨.leadingZeros, c.line, some c.col⟩
      | .error stop => .error ((skipTo stop.rest).faultBefore stop.kind)
    else if x == '"' || x == '\x27' then scanString s [] c c
    else if isWordStart x then scanWord s c
    else scanMark s c

/-! ## Whole texts -/

/-- The end of the text, or of the part that could be scanned: open blocks are closed. The closing
tokens show the end of the last line. -/
def close (s : Scanner) (fault : Option Fault) (lastLine lastCol : Nat) : List Token :=
  let last (kind : TokenKind) : Token := ⟨kind, ⟨lastLine, 0⟩, ⟨lastLine, 0⟩, some lastCol, 0, none⟩
  let missed := openBracket s.brackets
  match fault <|> missed with
  | some f => (last (.broken f missed) :: s.tokens).reverse
  | none =>
    (last .finish :: List.replicate s.blocks.length (last .dedent) ++ s.tokens).reverse

/-- Scans until the text ends or has a fault. Each step passes at least one character or leaves a
line's start, so twice the length of the text is enough. -/
def run : Nat → Scanner → Scanner × Option Fault
  | 0, s => (s, none)
  | fuel + 1, s =>
    if s.cursor.rest.isEmpty then (s, none)
    else
      match if s.fresh && s.brackets.isEmpty then s.startLine else s.scanInside with
      | .ok next => run fuel next
      | .error f => (s, some f)

end Scanner

/-- Line ends as `\n`, and one after the last line. A text that ends in `\r\n` gets one more. -/
def sourceLines (text : String) : List Char :=
  let rec unify : List Char → List Char
    | [] => []
    | '\r' :: '\n' :: cs => '\n' :: unify cs
    | '\r' :: cs => '\n' :: unify cs
    | c :: cs => c :: unify cs
  let cs := unify text.toList
  if text.endsWith "\r\n" then cs ++ ['\n']
  else if cs.getLast? == some '\n' || cs.isEmpty then cs else cs ++ ['\n']

/-- The number of the last line of a text and its length in characters. -/
def lastLine (cs : List Char) : Nat × Nat :=
  let lines := cs.foldl (fun (n, len, last) c => if c == '\n' then (n + 1, 0, len) else (n, len + 1, last))
    ((0, 0, 0) : Nat × Nat × Nat)
  (max 1 lines.1, lines.2.2)

/-- The tokens of a text that starts at a given place. -/
def scanFrom (line col : Nat) (cs : List Char) : List Token :=
  let start : Scanner := ⟨⟨cs, line, col, col⟩, [], [], true, ⟨cs, 0⟩, []⟩
  let (s, fault) := Scanner.run (2 * cs.length + 2) start
  let (n, len) := lastLine cs
  s.close fault (n + line - 1) len

/-- The tokens of a source text. -/
def scan (text : String) : List Token := scanFrom 1 0 (sourceLines text)

end JumpMacros
