import JumpMacros.Parse.Escape
import JumpMacros.Parse.Stream

/-!
# Formatted strings

The body of a formatted string is cut into literal text and fields. A field reaches up to the
first `!`, `:`, `=` or closing brace that stands outside brackets and quotes; its format is cut in
the same way, one level deeper. The expression of a field is read as soon as its end is known, so
that what is wrong with it comes before what is wrong further on.
-/

namespace JumpMacros.Formatted

open Text (Points)

/-- A character with its place. -/
abbrev Placed := Char × Position

/-- The characters of a text that starts at a place. -/
def place : Position → List Char → List Placed
  | _, [] => []
  | p, c :: cs =>
    (c, p) :: place (if c == '\n' then ⟨p.line + 1, 0⟩ else ⟨p.line, p.col + c.utf8Size⟩) cs

def fault (m : String) : FaultKind := .other ("f-string: " ++ m)

/-- Literal text: its characters, what follows, and whether it ended at a doubled brace, behind
which more text may follow. -/
structure Chunk where
  text : List Char
  rest : List Placed
  isDoubled : Bool

/-- Puts characters before a chunk. -/
def Chunk.after (cs : List Char) (c : Chunk) : Chunk := { c with text := cs ++ c.text }

/-- How many characters the name in an escape takes, with its braces. -/
def nameLength : List Placed → Nat
  | ('\x7b', _) :: rest => 1 + min rest.length ((rest.takeWhile fun x => x.1 != '\x7d').length + 1)
  | _ :: _ => 1
  | [] => 0

/-- The literal text in front, up to a brace; a doubled brace counts as one outside formats. A
brace that belongs to an escape by name is no end. -/
def literal (raw nested : Bool) : List Placed → Except FaultKind Chunk
  | [] => .ok ⟨[], [], false⟩
  | (c, p) :: rest =>
    if c == '\x7b' || c == '\x7d' then
      if nested then .ok ⟨[], (c, p) :: rest, false⟩
      else
        match rest with
        | (d, _) :: rest' =>
          if d == c then .ok ⟨[c], rest', true⟩
          else if c == '\x7d' then .error (fault "single '\x7d' is not allowed")
          else .ok ⟨[], (c, p) :: rest, false⟩
        | [] =>
          if c == '\x7d' then .error (fault "single '\x7d' is not allowed")
          else .ok ⟨[], (c, p) :: rest, false⟩
    else if c == '\\' && !raw then
      match rest with
      | (d, q) :: rest' =>
        if d == 'N' then
          let n := nameLength rest'
          (literal raw nested (rest'.drop n)).map
            (Chunk.after (c :: d :: (rest'.take n).map Prod.fst))
        else if d == '\x7b' || d == '\x7d' then
          (literal raw nested ((d, q) :: rest')).map (Chunk.after [c])
        else (literal raw nested rest').map (Chunk.after [c, d])
      | [] => .ok ⟨[c], [], false⟩
    else (literal raw nested rest).map (Chunk.after [c])
termination_by cs => cs.length

/-- What the end of a field's expression depends on: the open quote with its width, and the open
brackets. -/
structure Nesting where
  quote : Option (Char × Nat)
  brackets : List Char

def closes (opener closer : Char) : Bool :=
  (opener == '(' && closer == ')') || (opener == '[' && closer == ']') ||
    (opener == '\x7b' && closer == '\x7d')

/-- Whether the next two characters are both a given one. -/
def twice (c : Char) : List Placed → Bool
  | (a, _) :: (b, _) :: _ => a == c && b == c
  | _ => false

/-- Whether a character with the one after it is a comparison. -/
def isComparison (c : Char) : List Placed → Bool
  | (d, _) :: _ => d == '=' && (c == '!' || c == '=' || c == '<' || c == '>')
  | [] => false

/-- The most brackets that can be open in a field. -/
def maxBrackets : Nat := 200

/-- The characters of a field's expression and what follows them. -/
def expression (n : Nesting) : List Placed → Except FaultKind (List Char × List Placed)
  | [] =>
    if n.quote.isSome then .error (fault "unterminated string")
    else
      match n.brackets with
      | b :: _ => .error (fault ("unmatched '" ++ b.toString ++ "'"))
      | [] => .error (fault "expecting '\x7d'")
  | (c, p) :: rest =>
    let one := fun (n : Nesting) => (expression n rest).map fun (cs, r) => (c :: cs, r)
    let three := fun (n : Nesting) =>
      (expression n (rest.drop 2)).map fun (cs, r) => (c :: c :: c :: cs, r)
    if c == '\\' then .error (.other "f-string expression part cannot include a backslash")
    else
      match n.quote with
      | some (q, width) =>
        if c == q then
          if width = 1 then one { n with quote := none }
          else if twice q rest then three { n with quote := none }
          else one n
        else one n
      | none =>
        if c == '\x27' || c == '"' then
          if twice c rest then three { n with quote := some (c, 3) }
          else one { n with quote := some (c, 1) }
        else if c == '[' || c == '\x7b' || c == '(' then
          if n.brackets.length ≥ maxBrackets then .error (fault "too many nested parenthesis")
          else one { n with brackets := c :: n.brackets }
        else if c == '#' then .error (.other "f-string expression part cannot include '#'")
        else if n.brackets.isEmpty &&
            (c == '!' || c == ':' || c == '\x7d' || c == '=' || c == '<' || c == '>') then
          if isComparison c rest then
            (expression n (rest.drop 1)).map fun (cs, r) => (c :: '=' :: cs, r)
          else if c == '<' || c == '>' then one n
          else .ok ([], (c, p) :: rest)
        else if c == ']' || c == '\x7d' || c == ')' then
          match n.brackets with
          | [] => .error (fault ("unmatched '" ++ c.toString ++ "'"))
          | b :: bs =>
            if closes b c then one { n with brackets := bs }
            else .error (fault ("closing parenthesis '" ++ c.toString ++
              "' does not match opening parenthesis '" ++ b.toString ++ "'"))
        else one n
termination_by cs => cs.length

def isBlank (c : Char) : Bool :=
  c == ' ' || c == '\t' || c == '\n' || c == '\r' || c == '\x0b' || c == '\x0c'

/-- The deepest level of formats that may hold fields. -/
def maxDepth : Nat := 2

/-- Joins neighbouring texts, so that between two fields there is at most one. -/
def joinTexts : List Piece → List Piece
  | .text a :: rest =>
    match joinTexts rest with
    | .text b :: more => .text (a ++ b) :: more
    | more => if a.isEmpty then more else .text a :: more
  | p :: rest => p :: joinTexts rest
  | [] => []

/-- Whether there is nothing but blanks where an expression should be. -/
def isEmptyField (source : List Char) : Bool :=
  source.all fun c => c == ' ' || c == '\t' || c == '\n' || c == '\x0c'

/-- The fault of a field without an expression, by what follows. -/
def emptyField : List Placed → FaultKind
  | (c, _) :: _ =>
    if c == '!' || c == ':' || c == '=' then
      fault ("expression required before '" ++ c.toString ++ "'")
    else fault "empty expression not allowed"
  | [] => fault "empty expression not allowed"

/-- The conversion of a field. -/
def conversion? : List Placed → Except FaultKind (Option Char × List Placed)
  | ('!', _) :: (c, _) :: rest =>
    if c == 's' || c == 'r' || c == 'a' then .ok (some c, rest)
    else .error (fault "invalid conversion character: expected 's', 'r', or 'a'")
  | ('!', _) :: [] => .error (fault "expecting '\x7d'")
  | rest => .ok (none, rest)

/-- The text that the `=` form shows: the expression with the blanks around the sign. -/
def shownText (source : List Char) : List Placed → Option Points × List Placed
  | ('=', _) :: rest =>
    let blanks := rest.takeWhile fun x => isBlank x.1
    (some ⟨(source ++ '=' :: blanks.map Prod.fst).map Char.toNat⟩, rest.drop blanks.length)
  | rest => (none, rest)

/-- A result of cutting; what is wrong is raised behind the literals that are joined. -/
def cut {α : Type} : Except FaultKind α → Reader α
  | .ok a => pure a
  | .error k => Reader.raiseHere k

/-- Reads the body of a formatted string, or a format at a deeper level, to its end; `field` reads
an expression. Each step reads a character, so the length of the text bounds the steps. -/
def pieces (field : Position → List Char → Reader Expr) (raw : Bool) :
    Nat → Nat → List Placed → Reader (List Piece × List Placed)
  | 0, _, cs => return ([], cs)
  | fuel + 1, depth, cs => do
    let chunk ← cut (literal raw (depth > 0) cs)
    let texts ← if chunk.text.isEmpty then pure [] else do
      let v ← cut (Escape.text raw chunk.text)
      pure [Piece.text v]
    if chunk.isDoubled then
      let (more, rest) ← pieces field raw fuel depth chunk.rest
      return (texts ++ more, rest)
    match chunk.rest with
    | ('\x7b', brace) :: after =>
      if depth ≥ maxDepth then Reader.raiseHere (fault "expressions nested too deeply")
      let (source, rest) ← cut (expression ⟨none, []⟩ after)
      if isEmptyField source then Reader.raiseHere (emptyField rest)
      let value ← field brace source
      let (shown, rest) := shownText source rest
      let (conversion, rest) ← cut (conversion? rest)
      let (format, rest) ← match rest with
        | (':', _) :: inner => do
          let (ps, rest) ← pieces field raw fuel (depth + 1) inner
          pure (some (joinTexts ps), rest)
        | _ => pure (none, rest)
      match rest with
      | ('\x7d', _) :: rest =>
        let conversion :=
          if shown.isSome && format.isNone && conversion.isNone then some 'r' else conversion
        let (more, rest) ← pieces field raw fuel depth rest
        return (texts ++ shown.toList.map Piece.text ++ .field value conversion format :: more, rest)
      | _ => Reader.raiseHere (fault "expecting '\x7d'")
    | rest => return (texts, rest)

/-- The pieces of the body of a formatted string that starts at a place. -/
def read (field : Position → List Char → Reader Expr) (raw : Bool) (start : Position)
    (body : List Char) : Reader (List Piece) := do
  return (← pieces field raw (body.length + 1) 0 (place start body)).1

end JumpMacros.Formatted
