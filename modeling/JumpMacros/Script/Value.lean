import JumpMacros.Files.Tree
import JumpMacros.Marker
import JumpMacros.Script.Source
import JumpMacros.Session
import JumpMacros.Tree.Literal

/-!
# Values of scripts

The values that scripts compute with, and the machine they run on. Lists, functions and classes
can change after they have been made, so a value refers to them by number and the machine keeps
them; so it does with the scopes that names are bound in.
-/

namespace JumpMacros.Script

open Decimal (Binary64 NumberFormat)

/-- The values of scripts. -/
inductive Value where
  | null
  | bool (b : Bool)
  | int (n : Int)
  | float (negative : Bool) (magnitude : Binary64)
  | str (s : String)
  /-- A literal of another kind. -/
  | literal (c : Constant)
  | tuple (items : List Value)
  | list (ref : Nat)
  | dict (entries : List (Value × Value))
  | range (start stop step : Int)
  | function (ref : Nat)
  | klass (ref : Nat)
  /-- A function in a wrapper of a class body, by the name of the wrapper. -/
  | wrapped (kind : String) (inner : Value)
  | module (name : String)
  | builtin (name : String)
  | type (name : String)
  /-- The method of a list that appends to it. -/
  | appender (ref : Nat)
  | marker (m : Macro)
  /-- The decorator that expands functions. -/
  | expand
  /-- The decorator with its settings chosen. -/
  | expander (s : Settings)
  /-- Something else that the package offers. -/
  | external (name : String)
deriving Inhabited

/-- What runs when a function is called. -/
inductive Code where
  | block (body : List (Stmt Empty))
  | expr (body : Expr)

/-- Where code runs: the scope its names are bound in, and how other names are looked up. -/
structure Frame where
  isFunction : Bool
  /-- The scope that names are bound in. -/
  scope : Nat
  /-- The scope of the module. -/
  globals : Nat
  /-- The scopes of the functions around, innermost first. -/
  enclosing : List Nat
  /-- The names that belong to the scope from the start. -/
  own : List String
  globalNames : List String
  nonlocalNames : List String
  /-- What functions defined here can close over, scope by scope. -/
  visible : List (List String)
  /-- What stands before the names of functions and classes defined here. -/
  qualifier : String
  className : Option String
  moduleName : String
  file : String
  /-- Annotations are kept as text. -/
  textNotes : Bool
deriving Inhabited

/-- A function. -/
structure FunctionObject where
  name : String
  facts : FunctionFacts
  moduleName : String
  doc : Value
  params : Params
  paramNames : List String
  defaults : Option (List Value)
  keywordDefaults : Option (List (String × Value))
  notes : List (String × Value)
  members : List (String × Value)
  code : Code
  frame : Frame

/-- A class. -/
structure ClassObject where
  name : String
  qualifiedName : String
  moduleName : String
  bases : List Value
  members : List (String × Value)

/-- Everything that a running script can change. -/
structure Machine where
  scopes : Array (List (String × Value))
  lists : Array (List Value)
  functions : Array FunctionObject
  classes : Array ClassObject
  /-- The modules that have been imported, with their scopes. -/
  modules : List (String × Nat)
  arguments : Value
  /-- The directories that are searched for modules. -/
  path : Value
  /-- What has been printed, last first. -/
  output : List String
  /-- What became of expanding functions, last first. -/
  log : List ExpansionLog
  files : FileTree
  session : Session

/-- Why a script stops early. -/
inductive Stop where
  | raised (r : Raised)
  | exits (status : Int)
  /-- The steps that were allowed have been used up. -/
  | exhausted

abbrev Exec := ExceptT Stop (StateM Machine)

/-- How a statement ends. -/
inductive Flow where
  | next
  | breaks
  | continues
  | returns (v : Value)

namespace Machine

def empty (files : FileTree) (session : Session) : Machine :=
  ⟨#[], #[session.arguments.texts.map .str, session.searchPath.texts.map .str], #[], #[], [],
    .list 0, .list 1, [], [], files, session⟩

/-- What has been printed. -/
def printed (m : Machine) : String := String.join m.output.reverse

/-- The items of a list. -/
def items (m : Machine) (ref : Nat) : List Value := m.lists.getD ref []

end Machine

def raise {α : Type} (r : Raised) : Exec α := throw (.raised r)

def typeError {α : Type} (message : String) : Exec α := raise (.typeError message)

def liftExcept {α : Type} : Except Raised α → Exec α
  | .ok a => return a
  | .error r => raise r

/-- What is left out of the language of scripts. -/
def unsupported {α : Type} (what : String) : Exec α := raise (.host "NotImplementedError" what)

/-! ## Scopes -/

/-- Puts a value under a name; a new name comes last. -/
def putName (name : String) (v : Value) : List (String × Value) → List (String × Value)
  | [] => [(name, v)]
  | (n, w) :: rest => if n == name then (n, v) :: rest else (n, w) :: putName name v rest

def newScope (names : List (String × Value)) : Exec Nat := do
  let m ← get
  set { m with scopes := m.scopes.push names }
  return m.scopes.size

def scopeNames (ref : Nat) : Exec (List (String × Value)) := return (← get).scopes.getD ref []

def setIn (ref : Nat) (name : String) (v : Value) : Exec Unit :=
  modify fun m => { m with scopes := m.scopes.modify ref (putName name v) }

def newList (items : List Value) : Exec Value := do
  let m ← get
  set { m with lists := m.lists.push items }
  return .list m.lists.size

def newFunction (f : FunctionObject) : Exec Value := do
  let m ← get
  set { m with functions := m.functions.push f }
  return .function m.functions.size

/-- Binds a name where the frame says. -/
def Frame.bind (f : Frame) (name : String) (v : Value) : Exec Unit := do
  if f.globalNames.contains name then setIn f.globals name v
  else if f.nonlocalNames.contains name then
    let scopes := (← get).scopes
    let holder := f.enclosing.find? fun e => (scopes.getD e []).any (·.1 == name)
    setIn (holder.getD f.scope) name v
  else setIn f.scope name v

/-! ## Names of the host -/

/-- The functions that are known everywhere. -/
def builtinFunctions : List String :=
  ["abs", "all", "any", "ascii", "bin", "callable", "chr", "delattr", "dir", "divmod", "eval",
    "exec", "format", "getattr", "globals", "hasattr", "hash", "hex", "id", "input", "isinstance",
    "issubclass", "iter", "len", "locals", "max", "min", "next", "oct", "open", "ord", "pow",
    "print", "repr", "round", "setattr", "sorted", "sum", "vars"]

/-- The types that are known everywhere. -/
def builtinTypes : List String :=
  ["bool", "bytearray", "bytes", "classmethod", "complex", "dict", "enumerate", "filter", "float",
    "frozenset", "int", "list", "map", "memoryview", "object", "property", "range", "reversed",
    "set", "slice", "staticmethod", "str", "super", "tuple", "type", "zip", "ArithmeticError",
    "AssertionError", "AttributeError", "BaseException", "Exception", "ImportError", "IndexError",
    "KeyError", "KeyboardInterrupt", "LookupError", "ModuleNotFoundError", "NameError",
    "NotImplementedError", "OSError", "RuntimeError", "StopIteration", "SyntaxError", "SystemExit",
    "TypeError", "ValueError", "ZeroDivisionError"]

def builtin? (name : String) : Option Value :=
  if builtinFunctions.contains name then some (.builtin name)
  else if builtinTypes.contains name then some (.type name)
  else none

/-- The name of the package that scripts import the macros from. -/
def packageName : String := "flow_control"

/-- What the package offers besides the macros. -/
def packageExports : List String :=
  ["expand", "install", "uninstall", "compile_source", "expand_source", "expand_module",
    "FlowError", "ShapeMismatchError", "ExpansionError", "LabelResolutionError", "NotExpandedError"]

/-- The functions of the package that load and write source files, and their module. -/
def loadingModule : String × List String :=
  ("flow_control.core.io.load_source", ["load_source", "write_source"])

/-- A member of the package, imported from one of its modules. -/
def packageMember? (module name : String) : Option Value :=
  match Macro.ofName? name with
  | some m => some (.marker m)
  | none =>
    if name == "expand" then some .expand
    else if packageExports.contains name then some (.external name)
    else if module == loadingModule.1 && loadingModule.2.contains name then some (.external name)
    else none

/-! ## Names -/

/-- The value of a name. -/
def Frame.lookup (f : Frame) (name : String) : Exec Value := do
  let m ← get
  let within (ref : Nat) : Option Value := (m.scopes.getD ref []).lookup name
  let outside := within f.globals <|> builtin? name
  let around := f.enclosing.findSome? within
  let found :=
    if f.globalNames.contains name then outside
    else if f.isFunction && f.own.contains name then within f.scope
    else within f.scope <|> around <|> outside
  match found with
  | some v => return v
  | none =>
    if f.isFunction && f.own.contains name && !f.globalNames.contains name then
      raise (.host "UnboundLocalError" ("cannot access local variable '" ++ name ++
        "' where it is not associated with a value"))
    else raise (.undefinedName name)

/-! ## Text -/

/-- How numbers are shown. -/
def shownNumber : NumberFormat := ⟨-4, 15, true, "inf"⟩

/-- The name of a value's type. -/
def Value.typeName : Value → String
  | .null => "NoneType"
  | .bool _ => "bool"
  | .int _ => "int"
  | .float _ _ => "float"
  | .str _ => "str"
  | .literal (.bytes _) => "bytes"
  | .literal .ellipsis => "ellipsis"
  | .literal _ => "complex"
  | .tuple _ => "tuple"
  | .list _ => "list"
  | .dict _ => "dict"
  | .range _ _ _ => "range"
  | .function _ | .marker _ | .expand | .expander _ | .external _ => "function"
  | .klass _ | .type _ => "type"
  | .wrapped kind _ => kind
  | .module _ => "module"
  | .builtin _ | .appender _ => "builtin_function_or_method"

/-- The text that shows a value, quotes included. The first argument bounds how deep values
nest. -/
def Value.show (m : Machine) : Nat → Value → String
  | 0, _ => "..."
  | fuel + 1, v =>
    let all (vs : List Value) : String := ", ".intercalate (vs.map (Value.show m fuel))
    match v with
    | .null => "None"
    | .bool b => if b then "True" else "False"
    | .int n => toString n
    | .float negative x => (if negative then "-" else "") ++ shownNumber.text x
    | .str s => Text.quoted s
    | .literal .ellipsis => "Ellipsis"
    | .literal c => c.text false
    | .tuple [x] => "(" ++ Value.show m fuel x ++ ",)"
    | .tuple vs => "(" ++ all vs ++ ")"
    | .list ref => "[" ++ all (m.items ref) ++ "]"
    | .dict es =>
      "\x7b" ++ ", ".intercalate (es.map fun (k, w) =>
        Value.show m fuel k ++ ": " ++ Value.show m fuel w) ++ "\x7d"
    | .range a b s =>
      "range(" ++ toString a ++ ", " ++ toString b ++
        (if s = 1 then "" else ", " ++ toString s) ++ ")"
    | .type n => "<class '" ++ n ++ "'>"
    | .klass ref =>
      match m.classes[ref]? with
      | some c => "<class '" ++ c.moduleName ++ "." ++ c.qualifiedName ++ "'>"
      | none => "<class>"
    | .builtin n => "<built-in function " ++ n ++ ">"
    | .module n => "<module '" ++ n ++ "'>"
    | .function ref =>
      match m.functions[ref]? with
      | some f => "<function " ++ f.facts.qualifiedName ++ ">"
      | none => "<function>"
    | .wrapped kind w => "<" ++ kind ++ "(" ++ Value.show m fuel w ++ ")>"
    | .marker k => "<function " ++ k.name ++ ">"
    | .expand | .expander _ => "<function expand>"
    | .external n => "<function " ++ n ++ ">"
    | .appender _ => "<built-in method append>"

/-- How deep values are shown. -/
def showDepth : Nat := 200

/-- Whether a value holds a whole number with too many digits to be shown. -/
def Value.isTooLong (m : Machine) : Nat → Value → Bool
  | 0, _ => false
  | fuel + 1, v =>
    match v with
    | .int n => Decimal.isTooLong n
    | .tuple vs => vs.any (Value.isTooLong m fuel)
    | .list ref => (m.items ref).any (Value.isTooLong m fuel)
    | .dict es => es.any fun (k, w) => Value.isTooLong m fuel k || Value.isTooLong m fuel w
    | .range a b s => Decimal.isTooLong a || Decimal.isTooLong b || Decimal.isTooLong s
    | _ => false

/-- The text that shows a value, quotes included. -/
def shown (v : Value) : Exec String := do
  if v.isTooLong (← get) showDepth then raise (.valueError Decimal.tooLongToWrite)
  return v.show (← get) showDepth

/-- The text of a value: a string stands for itself. -/
def textOf (v : Value) : Exec String := do
  match v with
  | .str s => return s
  | v => shown v

/-! ## Namespaces -/

/-- What a value is, as far as macros are concerned. -/
def Value.bound (m : Machine) : Value → Bound
  | .marker k => .callable (some k.name)
  | .function ref =>
    match m.functions[ref]?.bind fun f => f.members.lookup "__flow_macro__" with
    | some (.str s) => .callable (some s)
    | _ => .callable none
  | .module n => .module n
  | .klass _ | .type _ | .builtin _ | .appender _ | .expand | .expander _ | .external _ =>
    .callable none
  | _ => .other

/-- A scope as a namespace. -/
def Machine.namespaceOf (m : Machine) (scope : Nat) : List (String × Bound) :=
  (m.scopes.getD scope []).map fun (n, v) => (n, v.bound m)

end JumpMacros.Script
