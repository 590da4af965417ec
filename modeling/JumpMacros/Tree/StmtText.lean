import JumpMacros.Tree.ExprText
import JumpMacros.Tree.Node

/-!
# Statements as text

The canonical text of a module: one statement a line, four blanks for each level of nesting, a
blank line before each definition but one that comes first. An `else` that holds exactly one `if`
is written as `elif`, and the first string of a module, function or class as a doc string.
-/

namespace JumpMacros

open Text

/-- The text of an expression where no more than the default is required. -/
def Expr.plain (e : Expr) : String := e.text false .test

def Expr.plains (es : List Expr) : String := ", ".intercalate (es.map Expr.plain)

def Alias.text (a : Alias) : String :=
  match a.asName with
  | none => a.name
  | some n => a.name ++ " as " ++ n

def aliasesText (as : List Alias) : String := ", ".intercalate (as.map Alias.text)

/-- The line of a simple statement. -/
def Simple.text : Simple → String
  | .expr v => v.text false .yield
  | .assign ts v => String.join (ts.map fun t => t.text false .tuple ++ " = ") ++ v.plain
  | .augmented t op v => t.plain ++ " " ++ op.text ++ "= " ++ v.plain
  | .annotated t n v bare =>
    let isName := match t with
      | .name _ _ _ => true
      | _ => false
    parenthesised (!bare && isName) t.plain ++ ": " ++ n.plain ++ optionText false " = " .test v
  | .deletes ts => "del " ++ Expr.plains ts
  | .pass => "pass"
  | .breaks => "break"
  | .continues => "continue"
  | .returns v => "return" ++ optionText false " " .test v
  | .raises e c => "raise" ++ optionText false " " .test e ++ optionText false " from " .test c
  | .asserts t m => "assert " ++ t.plain ++ optionText false ", " .test m
  | .globals ns => "global " ++ ", ".intercalate ns
  | .nonlocals ns => "nonlocal " ++ ", ".intercalate ns
  | .imports as => "import " ++ aliasesText as
  | .importsFrom m as level =>
    "from " ++ String.ofList (List.replicate level '.') ++ m.getD "" ++ " import " ++
      aliasesText as

def LoopHead.text : LoopHead → String
  | .over isAsync t i =>
    (if isAsync then "async for " else "for ") ++ t.text false .tuple ++ " in " ++ i.plain ++ ":"
  | .whilst t => "while " ++ t.plain ++ ":"

def WithItem.text (w : WithItem) : String := w.manager.plain ++ optionText false " as " .test w.target

/-- Four blanks for each level of nesting. -/
def indented (depth : Nat) (s : String) : String :=
  String.ofList (List.replicate (4 * depth) ' ') ++ s

def decoratorLines (depth : Nat) (ds : List Expr) : List String :=
  ds.map fun d => indented depth ("@" ++ d.plain)

def FunctionHead.lines (depth : Nat) (f : FunctionHead) : List String :=
  decoratorLines depth f.decorators ++
    [indented depth ((if f.isAsync then "async def " else "def ") ++ f.name ++ "(" ++
      f.params.text false ++ ")" ++ optionText false " -> " .test f.returns ++ ":")]

def ClassHead.lines (depth : Nat) (c : ClassHead) : List String :=
  let args := c.bases.map Expr.plain ++ Keyword.texts false c.keywords
  decoratorLines depth c.decorators ++
    [indented depth ("class " ++ c.name ++ parenthesised (!args.isEmpty) (", ".intercalate args) ++
      ":")]

/-- The text of a statement that is a lone string, written as a doc string. -/
def Stmt.docString? {Hole : Type} : Stmt Hole → Option String
  | .simple _ (.expr (.const _ (.str v marked))) => some (docString v marked)
  | _ => none

mutual

/-- The lines of a statement. An `if` starts with the given word. -/
def Stmt.lines (depth : Nat) (ifWord : String) : Stmt Empty → List String
  | .simple _ s => [indented depth s.text]
  | .hole _ h => nomatch h
  | .branch _ t b o =>
    indented depth (ifWord ++ " " ++ t.plain ++ ":") :: Stmt.blockLines (depth + 1) b ++
      Stmt.elseLines depth o
  | .loop _ h b o =>
    indented depth h.text :: Stmt.blockLines (depth + 1) b ++
      (if o.isEmpty then [] else indented depth "else:" :: Stmt.blockLines (depth + 1) o)
  | .function _ h b => "" :: h.lines depth ++ Stmt.bodyLines (depth + 1) b
  | .klass _ h b => "" :: h.lines depth ++ Stmt.bodyLines (depth + 1) b
  | .withItems _ isAsync items b =>
    indented depth ((if isAsync then "async with " else "with ") ++
      ", ".intercalate (items.map WithItem.text) ++ ":") :: Stmt.blockLines (depth + 1) b
  | .attempt _ star b hs o f =>
    indented depth "try:" :: Stmt.blockLines (depth + 1) b ++
      Handler.lines depth (if star then "except*" else "except") hs ++
      (if o.isEmpty then [] else indented depth "else:" :: Stmt.blockLines (depth + 1) o) ++
      (if f.isEmpty then [] else indented depth "finally:" :: Stmt.blockLines (depth + 1) f)
  | .select _ e cs => indented depth ("match " ++ e.plain ++ ":") :: Case.lines (depth + 1) cs

def Stmt.blockLines (depth : Nat) : List (Stmt Empty) → List String
  | [] => []
  | s :: ss => s.lines depth "if" ++ Stmt.blockLines depth ss

/-- The lines of the body of a module, function or class, with its doc string. -/
def Stmt.bodyLines (depth : Nat) : List (Stmt Empty) → List String
  | [] => []
  | s :: ss =>
    (match s.docString? with
      | some d => [indented depth d]
      | none => s.lines depth "if") ++ Stmt.blockLines depth ss

/-- The lines of an `else` part of an `if`. -/
def Stmt.elseLines (depth : Nat) : List (Stmt Empty) → List String
  | [] => []
  | [s] =>
    if s.isBranch then s.lines depth "elif"
    else indented depth "else:" :: s.lines (depth + 1) "if"
  | s :: ss => indented depth "else:" :: s.lines (depth + 1) "if" ++ Stmt.blockLines (depth + 1) ss

def Handler.lines (depth : Nat) (word : String) : List (Handler Empty) → List String
  | [] => []
  | .mk _ t n b :: hs =>
    let name := match n with
      | none => ""
      | some x => " as " ++ x
    indented depth (word ++ optionText false " " .test t ++ name ++ ":") ::
      Stmt.blockLines (depth + 1) b ++ Handler.lines depth word hs

def Case.lines (depth : Nat) : List (Case Empty) → List String
  | [] => []
  | .mk p g b :: cs =>
    indented depth ("case " ++ p.text .test ++ optionText false " if " .test g ++ ":") ::
      Stmt.blockLines (depth + 1) b ++ Case.lines depth cs

end

/-- The canonical text of a module. -/
def Module.text (m : Module Empty) : String :=
  let lines := Stmt.bodyLines 0 m.body
  "\n".intercalate (if lines.head? == some "" then lines.drop 1 else lines)

end JumpMacros
