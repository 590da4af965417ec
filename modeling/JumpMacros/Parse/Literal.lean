import JumpMacros.Parse.Formatted
import JumpMacros.Parse.Goal
import JumpMacros.Token.Scan

/-!
# Reading literals

Neighbouring string literals are joined. The expressions in the fields of formatted strings are
texts of their own, which are read as if they stood between parentheses.
-/

namespace JumpMacros

open Reader

/-- Reads the expression of a field. -/
def fieldExpression (r : Recur) (brace : Position) (source : List Char) : Reader Expr :=
  let tokens := (scanFrom brace.line brace.col ('(' :: source ++ [')', '\n'])).toArray
  match run (r .starExpressions) tokens brace with
  | .ok e => pure e
  | .error f =>
    -- a fault in the first line is counted from where the expression starts
    let col := if f.line = brace.line then f.col.map fun c => c - brace.col else f.col
    let kind := if f.kind.isScanned then f.kind else .other ("f-string: " ++ f.kind.message)
    throw (.raised ⟨kind, f.line, col⟩)

/-- Raises what is wrong with a literal. Most of it is noticed only behind the literals that are
joined with it. -/
def literalValue {α : Type} (t : Token) : Except FaultKind α → Reader α
  | .ok a => pure a
  | .error .wideBytes => raise .wideBytes t
  | .error k => raiseHere k

/-- The value of a string literal: bytes, or the pieces of a text. -/
inductive StringValue where
  | bytes (bs : List Nat)
  | pieces (ps : List Piece)

/-- The value of one string literal, given the one before. -/
def stringValue (r : Recur) (before : Option RawString) (t : Token) (s : RawString) :
    Reader StringValue := do
  let plain ← if s.isBytes then
      some <$> StringValue.bytes <$> literalValue t (Escape.bytes s.isRaw s.body)
    else if s.isFormatted then pure none
    else do
      let v ← literalValue t (Escape.text s.isRaw s.body)
      pure (some (.pieces [.text v]))
  match before with
  | some b =>
    if b.isBytes != s.isBytes then raiseHere (.other "cannot mix bytes and nonbytes literals")
  | none => pure ()
  match plain with
  | some v => return v
  | none =>
    let start : Position := ⟨t.start.line, t.start.col + s.lead⟩
    return .pieces (← Formatted.read (fieldExpression r) s.isRaw start s.body)

/-- The values of neighbouring string literals. -/
def stringValues (r : Recur) : Option RawString → List (Token × RawString) →
    Reader (List StringValue)
  | _, [] => return []
  | before, (t, s) :: rest => do
    let v ← stringValue r before t s
    return v :: (← stringValues r (some s) rest)

/-- Takes a string literal. -/
def rawString : Reader (Token × RawString) := do
  let t ← peek
  match t.kind with
  | .string s =>
    let _ ← advance
    return (t, s)
  | _ => fail

/-- The bytes among the values of literals. -/
def joinedBytes (vs : List StringValue) : List Nat :=
  vs.flatMap fun
    | .bytes bs => bs
    | .pieces _ => []

/-- The pieces among the values of literals. -/
def joinedPieces (vs : List StringValue) : List Piece :=
  vs.flatMap fun
    | .bytes _ => []
    | .pieces ps => ps

/-- The text of pieces without fields. -/
def piecesText (ps : List Piece) : Text.Points :=
  ps.foldl (fun acc p => match p with
    | .text v => acc ++ v
    | .field _ _ _ => acc) Text.Points.empty

/-- Neighbouring string literals. -/
def stringLiterals (r : Recur) : Reader Expr := remembered .strings do
  let start ← here
  let parts ← manyOne rawString
  let values ← stringValues r none parts
  let isMarked := (parts.head?.map fun p => p.2.isMarked).getD false
  if parts.any fun p => p.2.isBytes then return .const start (.bytes (joinedBytes values))
  let pieces := joinedPieces values
  if parts.any fun p => p.2.isFormatted then return .fstring start (Formatted.joinTexts pieces)
  return .const start (.str (piecesText pieces) isMarked)

/-- A number. -/
def numberLiteral : Reader Expr := do
  let t ← peek
  match t.kind with
  | .number c digits =>
    if digits > Decimal.maxDigits then throw (.raised ⟨.tooManyDigits digits, t.start.line, none⟩)
    let _ ← advance
    return .const t.start c
  | _ => fail

end JumpMacros
