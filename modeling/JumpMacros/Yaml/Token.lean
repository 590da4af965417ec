import JumpMacros.Text.Utf8
import JumpMacros.Yaml.Problem

/-!
# Tokens of YAML documents

A document is cut into tokens from left to right. A token that may turn out to be the key of a
mapping is held back until a colon confirms it or its line ends; `scan` lists the tokens in the
order in which they are known for sure, up to the first problem.
-/

namespace JumpMacros.Yaml

/-- What a directive at the head of a document says: the version of the format, what a handle of
tags stands for, or something that has no meaning here. -/
inductive Directive where
  | version (major : Nat)
  | handle (name lead : String)
  | other
deriving DecidableEq, Repr

inductive TokenKind where
  | directive (d : Directive)
  | documentStart
  | documentEnd
  | streamEnd
  | blockSequenceStart
  | blockMappingStart
  | blockEnd
  | flowSequenceStart
  | flowSequenceEnd
  | flowMappingStart
  | flowMappingEnd
  | blockEntry
  | flowEntry
  | key
  | value
  | reference (name : String)
  | anchor (name : String)
  | tag (handle : Option String) (suffix : String)
  | scalar (text : String) (plain : Bool)
deriving DecidableEq, Repr

/-- The name of a token in messages. -/
def TokenKind.name : TokenKind → String
  | .directive _ => "<directive>"
  | .documentStart => "<document start>"
  | .documentEnd => "<document end>"
  | .streamEnd => "<stream end>"
  | .blockSequenceStart => "<block sequence start>"
  | .blockMappingStart => "<block mapping start>"
  | .blockEnd => "<block end>"
  | .flowSequenceStart => "["
  | .flowSequenceEnd => "]"
  | .flowMappingStart => "\x7b"
  | .flowMappingEnd => "\x7d"
  | .blockEntry => "-"
  | .flowEntry => ","
  | .key => "?"
  | .value => ":"
  | .reference _ => "<alias>"
  | .anchor _ => "<anchor>"
  | .tag _ _ => "<tag>"
  | .scalar _ _ => "<scalar>"

structure Token where
  kind : TokenKind
  start : Mark
  stop : Mark
deriving DecidableEq, Repr

/-! ## Cursors -/

/-- A place in a document and what follows it. -/
structure Cursor where
  mark : Mark
  rest : List Char

namespace Cursor

/-- The character at a distance; past the end it is the null character, which no document
holds. -/
def peek (c : Cursor) (n : Nat) : Char := (c.rest.drop n).headD '\x00'

/-- Moves past one character. A byte order mark takes no column. -/
def step (c : Cursor) : Cursor :=
  match c.rest with
  | [] => c
  | x :: xs =>
    let m := c.mark
    if isBreak x then ⟨⟨m.index + 1, m.line + 1, 0⟩, xs⟩
    else ⟨⟨m.index + 1, m.line, if x == '\ufeff' then m.col else m.col + 1⟩, xs⟩

def skip (c : Cursor) : Nat → Cursor
  | 0 => c
  | n + 1 => c.step.skip n

end Cursor

/-- Whether a character ends a line or the document. -/
def isLineEnd (c : Char) : Bool := c == '\x00' || isBreak c

/-- Whether a character ends a word. -/
def isBlank (c : Char) : Bool := c == ' ' || c == '\t' || isLineEnd c

/-- Whether a document separator is at the front of a text. -/
def isSeparator (cs : List Char) : Bool :=
  (cs.take 3 == ['-', '-', '-'] || cs.take 3 == ['.', '.', '.']) &&
    isBlank ((cs.drop 3).headD '\x00')

/-- How far the blanks, comments and line ends at the front of a text reach, and whether there is
a line end among them. -/
def gap : Bool → List Char → Nat × Bool
  | _, [] => (0, false)
  | inComment, c :: cs =>
    if isBreak c then ((gap false cs).1 + 1, true)
    else if inComment || c == '#' then
      let (n, passed) := gap true cs
      (n + 1, passed)
    else if c == ' ' then
      let (n, passed) := gap false cs
      (n + 1, passed)
    else (0, false)

/-- What a line end stands for inside a scalar. -/
def breakChar (c : Char) : Char := if c == '\u2028' || c == '\u2029' then c else '\n'

/-- A folded line end: alone it is a blank; the line ends after it stand for themselves. -/
def folded (first : Char) (more : List Char) : List Char :=
  if first != '\n' then first :: more else if more.isEmpty then [' '] else more

/-! ## Plain scalars -/

/-- Whether a plain scalar ends at a character, given the one after it. -/
def endsPlain (inFlow : Bool) (c next : Char) : Bool :=
  isBlank c || (c == ':' && (isBlank next || (inFlow && ",[]\x7b\x7d".contains next))) ||
    (inFlow && ",?[]\x7b\x7d".contains c)

/-- The characters of a plain scalar up to a blank. -/
def plainWord (inFlow : Bool) : List Char → List Char
  | [] => []
  | c :: cs => if endsPlain inFlow c (cs.headD '\x00') then [] else c :: plainWord inFlow cs

/-- The line ends, with blanks between them, at the front of a text: what they stand for, how far
they reach, and whether a document separator follows. -/
def plainBreaks : List Char → List Char × Nat × Bool
  | [] => ([], 0, false)
  | c :: cs =>
    if c == ' ' then
      let (bs, n, sep) := plainBreaks cs
      (bs, n + 1, sep)
    else if isBreak c then
      if isSeparator cs then ([breakChar c], 1, true)
      else
        let (bs, n, sep) := plainBreaks cs
        (breakChar c :: bs, n + 1, sep)
    else ([], 0, false)

/-- The blanks between two words of a plain scalar. -/
structure PlainSpace where
  text : List Char
  length : Nat
  newLine : Bool

/-- Reads the blanks after a word of a plain scalar; no text means that the scalar ends. -/
def plainSpace (cs : List Char) : PlainSpace :=
  let blanks := cs.takeWhile (· == ' ')
  match cs.drop blanks.length with
  | [] => ⟨blanks, blanks.length, false⟩
  | c :: rest =>
    if !isBreak c then ⟨blanks, blanks.length, false⟩
    else if isSeparator rest then ⟨[], blanks.length + 1, true⟩
    else
      let (more, n, sep) := plainBreaks rest
      ⟨if sep then [] else folded (breakChar c) more, blanks.length + 1 + n, true⟩

/-- A plain scalar that has been read: its text, where reading stopped, and whether that is on a
new line. -/
structure PlainRead where
  text : List Char
  stop : Cursor
  newLine : Bool

/-- Reads words of a plain scalar, as many as the first argument allows. `space` stands before
the next word and `indent` is the least column of a further line. -/
def plainScalar (inFlow : Bool) (indent : Int) :
    Nat → Cursor → List Char → List Char → Bool → PlainRead
  | 0, c, text, _, newLine => ⟨text, c, newLine⟩
  | fuel + 1, c, text, space, newLine =>
    if c.peek 0 == '#' then ⟨text, c, newLine⟩
    else
      let word := plainWord inFlow c.rest
      if word.isEmpty then ⟨text, c, newLine⟩
      else
        let text := text ++ space ++ word
        let c := c.skip word.length
        let gap := plainSpace c.rest
        let c := c.skip gap.length
        if gap.text.isEmpty || c.peek 0 == '#' || (!inFlow && Int.ofNat c.mark.col < indent) then
          ⟨text, c, gap.newLine⟩
        else plainScalar inFlow indent fuel c text gap.text gap.newLine

/-! ## Quoted scalars -/

/-- The escapes of one character. -/
def escapes : List (Char × Char) :=
  [('0', '\x00'), ('a', '\x07'), ('b', '\x08'), ('t', '\t'), ('\t', '\t'), ('n', '\n'),
    ('v', '\x0b'), ('f', '\x0c'), ('r', '\r'), ('e', '\x1b'), (' ', ' '), ('"', '"'),
    ('\\', '\\'), ('/', '/'), ('N', '\x85'), ('_', '\xa0'), ('L', '\u2028'), ('P', '\u2029')]

/-- The escapes by number, with their count of digits. -/
def numberEscapes : List (Char × Nat) := [('x', 2), ('u', 4), ('U', 8)]

def isHexDigit (c : Char) : Bool :=
  c.isDigit || ('a' ≤ c && c ≤ 'f') || ('A' ≤ c && c ≤ 'F')

def hexValue (cs : List Char) : Nat :=
  cs.foldl (fun n c =>
    n * 16 + (if c.isDigit then c.toNat - 48 else if 'a' ≤ c then c.toNat - 87 else c.toNat - 55)) 0

/-- The line ends after the first one inside quotes, and where they stop. -/
def quotedBreaks (start : Mark) : Nat → Cursor → Except Problem (List Char × Cursor)
  | 0, c => .ok ([], c)
  | fuel + 1, c =>
    if isSeparator c.rest then .error (.fault .separatorInQuotes (some start) c.mark)
    else
      let c := c.skip (c.rest.takeWhile fun x => x == ' ' || x == '\t').length
      if isBreak (c.peek 0) then do
        let (bs, stop) ← quotedBreaks start fuel c.step
        return (breakChar (c.peek 0) :: bs, stop)
      else .ok ([], c)

/-- Reads an escape; the cursor is behind the backslash. -/
def escape (start : Mark) (c : Cursor) : Except Problem (List Char × Cursor) := do
  let x := c.peek 0
  match escapes.lookup x, numberEscapes.lookup x with
  | some y, _ => return ([y], c.step)
  | none, some n =>
    let c := c.step
    let digits := c.rest.take n
    match (digits ++ ['\x00']).find? fun d => !isHexDigit d with
    | some d =>
      if digits.length < n || d != '\x00' then throw (.fault (.shortEscape n d) (some start) c.mark)
    | none => pure ()
    return ([Char.ofNat (hexValue digits)], c.skip n)
  | none, none =>
    if isBreak x then quotedBreaks start c.rest.length c.step
    else throw (.fault (.unknownEscape x) (some start) c.mark)

/-- Reads a quoted scalar to behind its closing quote. -/
def quotedScalar (quote : Char) (start : Mark) :
    Nat → Cursor → List Char → Except Problem (List Char × Cursor)
  | 0, c, _ => .error (.fault .quoteNotClosed (some start) c.mark)
  | fuel + 1, c, text => do
    let x := c.peek 0
    if x == quote then
      if quote == '\x27' && c.peek 1 == quote then
        quotedScalar quote start fuel (c.skip 2) (text ++ [quote])
      else return (text, c.step)
    else if quote == '"' && x == '\\' then
      let (ys, c) ← escape start c.step
      quotedScalar quote start fuel c (text ++ ys)
    else if x == ' ' || x == '\t' || isLineEnd x then
      let blanks := c.rest.takeWhile fun y => y == ' ' || y == '\t'
      let c := c.skip blanks.length
      let y := c.peek 0
      if y == '\x00' then throw (.fault .quoteNotClosed (some start) c.mark)
      else if isBreak y then
        let (more, stop) ← quotedBreaks start c.rest.length c.step
        quotedScalar quote start fuel stop (text ++ folded (breakChar y) more)
      else quotedScalar quote start fuel c (text ++ blanks)
    else quotedScalar quote start fuel c.step (text ++ [x])

/-! ## Tags -/

/-- Whether a character can stand in a name. -/
def isNameChar (c : Char) : Bool := c.isAlphanum || c == '-' || c == '_'

/-- Whether a character can stand in the name of a tag. -/
def isUriChar (c : Char) : Bool := c.isAlphanum || "-;/?:@&=+$,_.!~*'()[]%".contains c

/-- Reads bytes that are written by number; the cursor is at a percent sign. -/
def uriBytes (construct : String) (start : Mark) :
    Nat → Cursor → Except Problem (List UInt8 × Cursor)
  | 0, c => .ok ([], c)
  | fuel + 1, c => do
    if c.peek 0 != '%' then return ([], c)
    let c := c.step
    for k in [0, 1] do
      if !isHexDigit (c.peek k) then
        throw (.fault (.tagEscape construct (c.peek k)) (some start) c.mark)
    let (bytes, stop) ← uriBytes construct start fuel (c.skip 2)
    return (UInt8.ofNat (hexValue (c.rest.take 2)) :: bytes, stop)

/-- Reads the name of a tag. -/
def uri (construct : String) (start : Mark) :
    Nat → Cursor → List Char → Bool → Except Problem (String × Cursor)
  | 0, c, text, _ => .ok (String.ofList text, c)
  | fuel + 1, c, text, isEmpty => do
    let x := c.peek 0
    if x == '%' then
      let (bytes, stop) ← uriBytes construct start c.rest.length c
      match Text.Utf8.decode bytes with
      | .ok s => uri construct start fuel stop (text ++ s.toList) false
      | .error f => throw (.fault (.tagDecoding construct f.message) (some start) c.mark)
    else if isUriChar x then uri construct start fuel c.step (text ++ [x]) false
    else if isEmpty then throw (.fault (.tagName construct x) (some start) c.mark)
    else return (String.ofList text, c)

/-- Reads a handle, which stands for the beginning of a tag's name. -/
def tagHandle (construct : String) (start : Mark) (c : Cursor) :
    Except Problem (String × Cursor) := do
  if c.peek 0 != '!' then throw (.fault (.tagHandle construct (c.peek 0)) (some start) c.mark)
  if c.peek 1 == ' ' then return ("!", c.step)
  let name := (c.rest.drop 1).takeWhile isNameChar
  let stop := c.skip (name.length + 1)
  if stop.peek 0 != '!' then
    throw (.fault (.tagHandle construct (stop.peek 0)) (some start) stop.mark)
  return (String.ofList ('!' :: name ++ ['!']), stop.step)

/-- Whether a character ends a line or is a blank. -/
def isGap (c : Char) : Bool := c == ' ' || isLineEnd c

/-- Reads a tag: its handle, if it has one, and the rest of its name. -/
def tag (start : Mark) (c : Cursor) : Except Problem (Option String × String × Cursor) := do
  let (handle, suffix, stop) ←
    if c.peek 1 == '<' then do
      let (name, stop) ← uri "tag" start c.rest.length (c.skip 2) [] true
      if stop.peek 0 != '>' then throw (.fault (.tagClose (stop.peek 0)) (some start) stop.mark)
      pure (none, name, stop.step)
    else if isBlank (c.peek 1) then pure (none, "!", c.step)
    else do
      let word := (c.rest.drop 1).takeWhile fun x => !isGap x
      let (handle, stop) ← if word.contains '!' then tagHandle "tag" start c else pure ("!", c.step)
      let (name, stop) ← uri "tag" start stop.rest.length stop [] true
      pure (some handle, name, stop)
  if !isGap (stop.peek 0) then throw (.fault (.tagBlank (stop.peek 0)) (some start) stop.mark)
  return (handle, suffix, stop)

/-! ## Directives -/

def skipBlanks (c : Cursor) : Cursor := c.skip (c.rest.takeWhile (· == ' ')).length

/-- Passes over the rest of a line, which is empty or a comment, and over its end. -/
def ignoredLine (construct : String) (start : Mark) (c : Cursor) : Except Problem Cursor := do
  let c := skipBlanks c
  let c := if c.peek 0 == '#' then c.skip (c.rest.takeWhile fun x => !isBreak x).length else c
  if !isLineEnd (c.peek 0) then
    throw (.fault (.lineEnd construct (c.peek 0)) (some start) c.mark)
  return if isBreak (c.peek 0) then c.step else c

/-- Reads a number of a version. -/
def versionNumber (start : Mark) (c : Cursor) : Except Problem (Nat × Cursor) := do
  let ds := c.rest.takeWhile Char.isDigit
  if ds.isEmpty then throw (.fault (.directiveNumber "a digit" (c.peek 0)) (some start) c.mark)
  return (ds.foldl (fun n d => n * 10 + (d.toNat - 48)) 0, c.skip ds.length)

/-- Reads the version of the format. -/
def versionDirective (start : Mark) (c : Cursor) : Except Problem (Directive × Cursor) := do
  let (major, c) ← versionNumber start (skipBlanks c)
  if c.peek 0 != '.' then
    throw (.fault (.directiveNumber "a digit or '.'" (c.peek 0)) (some start) c.mark)
  let (_, c) ← versionNumber start c.step
  if !isGap (c.peek 0) then
    throw (.fault (.directiveNumber "a digit or ' '" (c.peek 0)) (some start) c.mark)
  return (.version major, c)

/-- Reads what a handle stands for. -/
def handleDirective (start : Mark) (c : Cursor) : Except Problem (Directive × Cursor) := do
  let (handle, c) ← tagHandle "directive" start (skipBlanks c)
  if c.peek 0 != ' ' then throw (.fault (.directiveBlank (c.peek 0)) (some start) c.mark)
  let c := skipBlanks c
  let (lead, c) ← uri "directive" start c.rest.length c [] true
  if !isGap (c.peek 0) then throw (.fault (.directiveBlank (c.peek 0)) (some start) c.mark)
  return (.handle handle lead, c)

/-- Reads a directive to the end of its line; the cursor is behind the percent sign. -/
def directive (start : Mark) (c : Cursor) : Except Problem (Directive × Cursor) := do
  let name := c.rest.takeWhile isNameChar
  let c := c.skip name.length
  let next := c.peek 0
  if name.isEmpty || !isGap next then throw (.fault (.directiveName next) (some start) c.mark)
  let (d, c) ←
    if name == "YAML".toList then versionDirective start c
    else if name == "TAG".toList then handleDirective start c
    else pure (.other, c.skip (c.rest.takeWhile fun x => !isBreak x).length)
  return (d, ← ignoredLine "directive" start c)

/-! ## Block scalars -/

/-- What is done with the line ends at the end of a block scalar: one is kept, all or none. -/
inductive Chomping where
  | clip
  | keep
  | strip
deriving DecidableEq, Repr

/-- Reads a digit that says how far a block scalar is indented. -/
def indentDigit (start : Mark) (c : Cursor) : Except Problem (Option Nat × Cursor) := do
  let d := c.peek 0
  if !d.isDigit then return (none, c)
  if d == '0' then throw (.fault .zeroIndent (some start) c.mark)
  return (some (d.toNat - 48), c.step)

/-- Reads a sign that says what is done with line ends. -/
def chompSign (c : Cursor) : Option Chomping × Cursor :=
  match c.peek 0 with
  | '+' => (some .keep, c.step)
  | '-' => (some .strip, c.step)
  | _ => (none, c)

/-- Reads the head of a block scalar, its two signs in either order. -/
def blockHead (start : Mark) (c : Cursor) : Except Problem (Chomping × Option Nat × Cursor) := do
  let (chomp, indent, c) ← match chompSign c with
    | (some chomp, c) => do
      let (indent, c) ← indentDigit start c
      pure (chomp, indent, c)
    | (none, c) => do
      let (indent, c) ← indentDigit start c
      if indent.isNone then pure (.clip, none, c)
      else
        let (chomp, c) := chompSign c
        pure (chomp.getD .clip, indent, c)
  if !isGap (c.peek 0) then
    throw (.fault (.scalarIndicator (c.peek 0)) (some start) c.mark)
  return (chomp, indent, ← ignoredLine "block scalar" start c)

/-- Passes over the blanks of a line up to a column. -/
def blanksTo (indent : Nat) (c : Cursor) : Cursor :=
  c.skip ((c.rest.take (indent - c.mark.col)).takeWhile (· == ' ')).length

/-- The empty lines before a line at a column or right of it, and where they stop. -/
def emptyLines (indent : Nat) : Nat → Cursor → List Char × Cursor
  | 0, c => ([], c)
  | fuel + 1, c =>
    let c := blanksTo indent c
    if isBreak (c.peek 0) then
      let (bs, stop) := emptyLines indent fuel c.step
      (breakChar (c.peek 0) :: bs, stop)
    else ([], c)

/-- The empty lines before the first line, the greatest column reached, and where they stop. -/
def leadingLines : Nat → Cursor → Nat → List Char × Nat × Cursor
  | 0, c, widest => ([], widest, c)
  | fuel + 1, c, widest =>
    let x := c.peek 0
    if x == ' ' then leadingLines fuel c.step (max widest c.step.mark.col)
    else if isBreak x then
      let (bs, widest, stop) := leadingLines fuel c.step widest
      (breakChar x :: bs, widest, stop)
    else ([], widest, c)

/-- Reads the lines of a block scalar; `breaks` are the line ends before the next one. In a folded
scalar a line end between two lines that do not start with a blank is a blank. -/
def blockLines (isFolded : Bool) (chomp : Chomping) (indent : Nat) :
    Nat → Cursor → List Char → List Char → List Char × Cursor
  | 0, c, text, _ => (text, c)
  | fuel + 1, c, text, breaks =>
    let isLine (c : Cursor) : Bool := c.mark.col = indent && c.peek 0 != '\x00'
    let startsBlank (c : Cursor) : Bool := c.peek 0 == ' ' || c.peek 0 == '\t'
    if !isLine c then (text ++ (if chomp == .keep then breaks else []), c)
    else
      let line := c.rest.takeWhile fun x => !isBreak x
      let stop := c.skip line.length
      let lineBreak := if isBreak (stop.peek 0) then [breakChar (stop.peek 0)] else []
      let (more, next) := emptyLines indent stop.rest.length stop.step
      let text := text ++ breaks ++ line
      if isLine next then
        let joined :=
          if isFolded && lineBreak == ['\n'] && !startsBlank c && !startsBlank next then
            if more.isEmpty then [' '] else []
          else lineBreak
        blockLines isFolded chomp indent fuel next (text ++ joined) more
      else
        (text ++ (if chomp == .strip then [] else lineBreak) ++
          (if chomp == .keep then more else []), next)

/-- Reads a block scalar; the cursor is behind its mark, and `least` is the least column of its
lines. -/
def blockScalar (isFolded : Bool) (least : Nat) (start : Mark) (c : Cursor) :
    Except Problem (String × Cursor) := do
  let (chomp, indent, c) ← blockHead start c
  let (breaks, indent, c) := match indent with
    | some n =>
      let indent := least + n - 1
      let (breaks, c) := emptyLines indent c.rest.length c
      (breaks, indent, c)
    | none =>
      let (breaks, widest, c) := leadingLines c.rest.length c 0
      (breaks, max least widest, c)
  let (text, stop) := blockLines isFolded chomp indent (c.rest.length + 1) c [] breaks
  return (String.ofList text, stop)

/-! ## The scanner -/

/-- A token that may turn out to be a key: its number, whether it must be one, and its place. -/
structure PossibleKey where
  number : Nat
  required : Bool
  mark : Mark

/-- What scanning knows at a point of the document: the number of open brackets, the columns of
the open blocks, whether a key may start here, the possible keys by bracket depth, the tokens that
are sure, last first, and those that are held back. -/
structure Scanner where
  cursor : Cursor
  depth : Nat
  blocks : List Nat
  keyAllowed : Bool
  keys : List (Nat × PossibleKey)
  sure : List Token
  held : List Token
  finished : Bool

namespace Scanner

def ofText (doc : List Char) : Scanner :=
  ⟨⟨⟨0, 0, 0⟩, doc⟩, 0, [], true, [], [], [], false⟩

/-- The column of the innermost open block, or -1. -/
def indent (s : Scanner) : Int :=
  match s.blocks with
  | [] => -1
  | b :: _ => Int.ofNat b

def inFlow (s : Scanner) : Bool := s.depth != 0

def mark (s : Scanner) : Mark := s.cursor.mark

/-- Adds a token that starts at the cursor and reaches to another place. -/
def addTo (s : Scanner) (kind : TokenKind) (stop : Cursor) : Scanner :=
  { s with held := s.held ++ [⟨kind, s.mark, stop.mark⟩], cursor := stop }

/-- Adds a token without characters. -/
def add (s : Scanner) (kind : TokenKind) : Scanner := s.addTo kind s.cursor

/-- Adds a token of a number of characters. -/
def addMark (s : Scanner) (kind : TokenKind) (length : Nat) : Scanner :=
  s.addTo kind (s.cursor.skip length)

/-- Gives up the possible key of the current depth. -/
def dropKey (s : Scanner) : Except Problem Scanner :=
  match s.keys.lookup s.depth with
  | none => .ok s
  | some k =>
    if k.required then .error (.fault .keyWithoutColon (some k.mark) s.mark)
    else .ok { s with keys := s.keys.filter fun e => e.1 != s.depth }

/-- The most characters a key may have. -/
def maxKeyLength : Nat := 1024

/-- Gives up the possible keys whose line has ended. -/
def dropStaleKeys (s : Scanner) : Except Problem Scanner :=
  let isStale (k : PossibleKey) : Bool :=
    k.mark.line != s.mark.line || s.mark.index - k.mark.index > maxKeyLength
  match s.keys.find? fun e => isStale e.2 && e.2.required with
  | some (_, k) => .error (.fault .keyWithoutColon (some k.mark) s.mark)
  | none => .ok { s with keys := s.keys.filter fun e => !isStale e.2 }

/-- Notes that the token that starts here may be a key. -/
def saveKey (s : Scanner) : Except Problem Scanner := do
  if !s.keyAllowed then return s
  let required := !s.inFlow && s.indent == Int.ofNat s.mark.col
  let s ← s.dropKey
  return { s with keys := (s.depth, ⟨s.sure.length + s.held.length, required, s.mark⟩) :: s.keys }

/-- The columns of blocks that end left of a column, and those that stay open. -/
def closeBlocks (col : Int) : List Nat → Nat × List Nat
  | [] => (0, [])
  | b :: bs =>
    if Int.ofNat b > col then
      let (n, left) := closeBlocks col bs
      (n + 1, left)
    else (0, b :: bs)

/-- Ends the blocks that lie right of a column. -/
def unwind (s : Scanner) (col : Int) : Scanner :=
  if s.inFlow then s
  else
    let (n, left) := closeBlocks col s.blocks
    { s with blocks := left, held := s.held ++ List.replicate n ⟨.blockEnd, s.mark, s.mark⟩ }

/-- Opens a block at a column right of the innermost one; tells whether it did. -/
def openBlock (s : Scanner) (col : Nat) : Scanner × Bool :=
  if s.indent < Int.ofNat col then ({ s with blocks := col :: s.blocks }, true) else (s, false)

/-- Opens a block at the cursor, with its token. -/
def openBlockHere (s : Scanner) (kind : TokenKind) : Scanner :=
  let (s, isNew) := s.openBlock s.mark.col
  if isNew then s.add kind else s

/-- A directive or the mark of a document's start or end: it ends all blocks. -/
def separator (s : Scanner) (kind : TokenKind) (length : Nat) : Except Problem Scanner := do
  let s ← (s.unwind (-1)).dropKey
  return { s with keyAllowed := false }.addMark kind length

/-- The end of the document. -/
def streamEnd (s : Scanner) : Except Problem Scanner := do
  let s ← (s.unwind (-1)).dropKey
  return { s.add .streamEnd with keyAllowed := false, keys := [], finished := true }

def directive (s : Scanner) : Except Problem Scanner := do
  let s ← (s.unwind (-1)).dropKey
  let (d, stop) ← Yaml.directive s.mark s.cursor.step
  return { s with keyAllowed := false }.addTo (.directive d) stop

def openFlow (s : Scanner) (kind : TokenKind) : Except Problem Scanner := do
  let s ← s.saveKey
  return { s.addMark kind 1 with depth := s.depth + 1, keyAllowed := true }

def closeFlow (s : Scanner) (kind : TokenKind) : Except Problem Scanner := do
  let s ← s.dropKey
  return { s.addMark kind 1 with depth := s.depth - 1, keyAllowed := false }

def flowEntry (s : Scanner) : Except Problem Scanner := do
  let s ← s.dropKey
  return { s.addMark .flowEntry 1 with keyAllowed := true }

/-- An entry of a block sequence, or a key that is marked as one. -/
def blockItem (s : Scanner) (kind start : TokenKind) (problem : Fault) (keyAfter : Bool) :
    Except Problem Scanner := do
  if !s.inFlow && !s.keyAllowed then throw (.fault problem none s.mark)
  let s := if s.inFlow then s else s.openBlockHere start
  let s ← s.dropKey
  return { s.addMark kind 1 with keyAllowed := keyAfter }

/-- Inserts tokens before the held token with a number. -/
def insertHeld (s : Scanner) (number : Nat) (ts : List Token) : Scanner :=
  let n := number - s.sure.length
  { s with held := s.held.take n ++ ts ++ s.held.drop n }

/-- The colon behind a key. It confirms the possible key of the current depth. -/
def value (s : Scanner) : Except Problem Scanner := do
  match s.keys.lookup s.depth with
  | some k =>
    let s := { s with keys := s.keys.filter fun e => e.1 != s.depth }
    let (s, isNew) := if s.inFlow then (s, false) else s.openBlock k.mark.col
    let start : List Token := if isNew then [⟨.blockMappingStart, k.mark, k.mark⟩] else []
    let s := s.insertHeld k.number (start ++ [⟨.key, k.mark, k.mark⟩])
    return { s.addMark .value 1 with keyAllowed := false }
  | none => blockItem s .value .blockMappingStart .valueNotAllowed (!s.inFlow)

/-- An alias or an anchor. -/
def reference (s : Scanner) (label : String) (kind : String → TokenKind) :
    Except Problem Scanner := do
  let s ← s.saveKey
  let name := (s.cursor.rest.drop 1).takeWhile isNameChar
  let stop := s.cursor.skip (name.length + 1)
  let next := stop.peek 0
  if name.isEmpty || !(isBlank next || "?:,]\x7d%@`".contains next) then
    throw (.fault (.anchorName label next) (some s.mark) stop.mark)
  return { s.addTo (kind (String.ofList name)) stop with keyAllowed := false }

def tagToken (s : Scanner) : Except Problem Scanner := do
  let s ← s.saveKey
  let (handle, suffix, stop) ← Yaml.tag s.mark s.cursor
  return { s.addTo (.tag handle suffix) stop with keyAllowed := false }

def blockScalarToken (s : Scanner) (isFolded : Bool) : Except Problem Scanner := do
  let s ← { s with keyAllowed := true }.dropKey
  let (text, stop) ← blockScalar isFolded (max 1 (s.indent + 1)).toNat s.mark s.cursor.step
  return s.addTo (.scalar text false) stop

def quotedToken (s : Scanner) (quote : Char) : Except Problem Scanner := do
  let s ← s.saveKey
  let (text, stop) ← quotedScalar quote s.mark s.cursor.rest.length s.cursor.step []
  return { s.addTo (.scalar (String.ofList text) false) stop with keyAllowed := false }

def plainToken (s : Scanner) : Except Problem Scanner := do
  let s ← s.saveKey
  let r := plainScalar s.inFlow (s.indent + 1) s.cursor.rest.length s.cursor [] [] false
  return { s.addTo (.scalar (String.ofList r.text) true) r.stop with keyAllowed := r.newLine }

/-- Whether a plain scalar can start with a character, given the one after it. -/
def startsPlain (inFlow : Bool) (c next : Char) : Bool :=
  !(isBlank c || "-?:,[]\x7b\x7d#&*!|>'\"%@`".contains c) ||
    (!isBlank next && (c == '-' || (!inFlow && (c == '?' || c == ':'))))

/-- Reads the next token. -/
def next (s : Scanner) : Except Problem Scanner := do
  let bom := s.mark.index = 0 && s.cursor.peek 0 == '\ufeff'
  let cursor := if bom then s.cursor.step else s.cursor
  let (n, newLine) := gap false cursor.rest
  let s := { s with
    cursor := cursor.skip n
    keyAllowed := s.keyAllowed || (newLine && !s.inFlow) }
  let s ← s.dropStaleKeys
  let s := s.unwind (Int.ofNat s.mark.col)
  let c := s.cursor.peek 0
  let d := s.cursor.peek 1
  let first := s.mark.col = 0
  if c == '\x00' then s.streamEnd
  else if c == '%' && first then s.directive
  else if c == '-' && first && isSeparator s.cursor.rest then s.separator .documentStart 3
  else if c == '.' && first && isSeparator s.cursor.rest then s.separator .documentEnd 3
  else if c == '[' then s.openFlow .flowSequenceStart
  else if c == '\x7b' then s.openFlow .flowMappingStart
  else if c == ']' then s.closeFlow .flowSequenceEnd
  else if c == '\x7d' then s.closeFlow .flowMappingEnd
  else if c == ',' then s.flowEntry
  else if c == '-' && isBlank d then s.blockItem .blockEntry .blockSequenceStart .entryNotAllowed true
  else if c == '?' && (s.inFlow || isBlank d) then
    s.blockItem .key .blockMappingStart .keyNotAllowed (!s.inFlow)
  else if c == ':' && (s.inFlow || isBlank d) then s.value
  else if c == '*' then s.reference "alias" .reference
  else if c == '&' then s.reference "anchor" .anchor
  else if c == '!' then s.tagToken
  else if (c == '|' || c == '>') && !s.inFlow then s.blockScalarToken (c == '>')
  else if c == '\x27' || c == '"' then s.quotedToken c
  else if startsPlain s.inFlow c d then s.plainToken
  else throw (.fault (.noToken c) none s.mark)

/-- Moves the held tokens that are sure by now, as many as the first argument allows. -/
def release : Nat → Scanner → Scanner
  | 0, s => s
  | fuel + 1, s =>
    match s.held with
    | [] => s
    | t :: rest =>
      if !s.finished && s.keys.any (fun e => e.2.number == s.sure.length) then s
      else release fuel { s with sure := t :: s.sure, held := rest }

/-- Reads tokens, as many as the first argument allows. -/
def run : Nat → Scanner → List Token × Option Problem
  | 0, s => (s.sure.reverse, none)
  | fuel + 1, s =>
    match s.next with
    | .error e => (s.sure.reverse, some e)
    | .ok t =>
      if t.finished then ((t.release t.held.length).sure.reverse, none)
      else
        match t.dropStaleKeys with
        | .error e => (t.sure.reverse, some e)
        | .ok t => run fuel (t.release t.held.length)

end Scanner

/-- The tokens of a document up to its first problem, and that problem. -/
def scan (doc : List Char) : List Token × Option Problem :=
  Scanner.run (doc.length + 2) (Scanner.ofText doc)

end JumpMacros.Yaml
