import JumpMacros.Namespace
import JumpMacros.Source

/-!
# Functions from their source

To expand a single function, its source is cut out of the file it was written in, moved to the
left margin and read again, with the line numbers of the file. Its decorators are left out. A
function that closes over variables cannot be made anew, and one without a source or a definition
of its own cannot be read.
-/

namespace JumpMacros

/-- What is known of a function apart from its code: its qualified name, the file it was written
in, its lines there, whether it is a lambda, and the variables it closes over. -/
structure FunctionFacts where
  qualifiedName : String
  file : String
  firstLine : Nat
  lastLine : Nat
  isLambda : Bool
  freeVariables : List String
deriving DecidableEq, Repr

/-! ## Margins -/

def isMarginBlank (c : Char) : Bool := c == ' ' || c == '\t'

/-- The longest beginning that two sequences share. -/
def commonPrefix : List Char → List Char → List Char
  | a :: as, b :: bs => if a == b then a :: commonPrefix as bs else []
  | _, _ => []

/-- The blanks that all lines start with. Lines of blanks alone do not count. -/
def margin (lines : List (List Char)) : List Char :=
  let blanks := lines.filterMap fun l =>
    let lead := l.takeWhile isMarginBlank
    if lead.length < l.length then some lead else none
  match blanks with
  | [] => []
  | b :: bs => bs.foldl commonPrefix b

/-- Moves lines to the left margin; lines of blanks alone become empty. -/
def dedent (lines : List (List Char)) : List (List Char) :=
  let lines := lines.map fun l => if l.all isMarginBlank then [] else l
  let m := margin lines
  lines.map fun l => l.drop m.length

/-- The lines of a text from one line to another. -/
def linesBetween (text : String) (first last : Nat) : List (List Char) :=
  (((text.splitOn "\n").drop (first - 1)).take (last + 1 - first)).map String.toList

/-- The text of a function at the left margin. -/
def FunctionFacts.sourceIn (f : FunctionFacts) (text : String) : String :=
  String.join ((dedent (linesBetween text f.firstLine f.lastLine)).map fun l =>
    String.ofList l ++ "\n")

/-! ## Reading a function again -/

/-- A definition without its decorators. -/
def withoutDecorators (sp : Span) (h : FunctionHead) (b : List (Stmt Empty)) : Stmt Empty :=
  .function sp { h with decorators := [], firstLine := sp.line } b

/-- The definition of a function, read from the text of its file. -/
def FunctionFacts.definition (f : FunctionFacts) (text : Option String) :
    Except Raised (Stmt Empty) := do
  let fail {α : Type} (c : Cause) (line : Option Int) : Except Raised α :=
    .error (.diagnostic ⟨c, some f.file, line, none⟩)
  if !f.freeVariables.isEmpty then
    fail (.closure f.qualifiedName f.freeVariables) (some f.firstLine)
  else
    match text with
    | none => fail (.sourceUnavailable f.qualifiedName "source code not available") none
    | some text =>
      let notDef {α : Type} : Except Raised α :=
        fail (.sourceNotDef f.qualifiedName) (some f.firstLine)
      if f.isLambda then notDef
      else
        let source := f.sourceIn text
        -- a fault is reported in the lines of the function, a tree has those of the file
        let _ ← parseSource f.file source
        let padding := String.ofList (List.replicate (f.firstLine - 1) '\n')
        match (← parseSource f.file (padding ++ source)).body with
        | .function sp h b :: _ => .ok (withoutDecorators sp h b)
        | _ => notDef

/-- What became of expanding a function. -/
inductive ExpansionLog where
  | expanded (e : Expanded)
  | refused (ds : List Diagnostic)

/-- Expands a definition in a namespace; `textNotes` tells whether its annotations are kept as
texts. The first component tells what became of it. -/
def expandDefinition (s : Settings) (textNotes : Bool) (ns : List (String × Bound))
    (file : String) (d : Stmt Empty) : Option ExpansionLog × Except Raised Expanded :=
  match expandModule (s.withNamespace ns) (some file) ⟨[d]⟩ with
  | .error (.diagnostics ds) => (some (.refused ds), .error (ExpandError.diagnostics ds).raised)
  | .error e => (none, .error e.raised)
  | .ok e => (some (.expanded e), (compileModule file textNotes e.module).map fun _ => e)

end JumpMacros
