import JumpMacros.Script.Closure
import JumpMacros.Script.Operator

/-!
# Functions and their arguments

How functions are made from definitions, how the arguments of a call become the first names of
its scope, and how the members of functions, classes and modules are read and written.
-/

namespace JumpMacros.Script

/-- The parameters that take arguments by position. -/
def positionalOf : Params → List Param
  | .mk po ps _ _ _ => po ++ ps

def keywordOnlyOf : Params → List Param
  | .mk _ _ _ ko _ => ko

/-- The parameters in the order in which their annotations are listed. -/
def annotationOrder : Params → List Param
  | .mk po ps r ko kr => ps ++ po ++ r.toList ++ ko ++ kr.toList

/-- The text that a body starts with. -/
def docOf (body : List (Stmt Empty)) : Value :=
  match body with
  | .simple _ (.expr (.const _ (.str v _))) :: _ => .str v.display
  | _ => .null

/-- The value of a literal. -/
def literal : Constant → Value
  | .none => .null
  | .bool b => .bool b
  | .int n => .int n
  | .float x => .float false x
  | .str v _ => .str v.display
  | c => .literal c

/-! ## Arguments -/

/-- The names a call starts with, or what is wrong with its arguments. -/
def bindArguments (f : FunctionObject) (args : List Value) (kws : List (String × Value)) :
    Except String (List (String × Value)) := do
  let .mk po ps rest ko kr := f.params
  let positional := po ++ ps
  let q := f.facts.qualifiedName
  let names := positional.map Param.name
  let defaults := f.defaults.getD []
  let required := names.take (names.length - defaults.length)
  let optional := names.drop (names.length - defaults.length)
  if args.length > names.length && rest.isNone then
    throw (((⟨q, required, optional⟩ : Signature).problem? args.length).getD "")
  let given := names.zip args
  let byKeyword := (ps ++ ko).map Param.name
  let known := kws.filter fun k => byKeyword.contains k.1
  let unknown := kws.filter fun k => !byKeyword.contains k.1
  match known.find? fun k => given.any (·.1 == k.1) with
  | some (k, _) => throw (q ++ "() got multiple values for argument '" ++ k ++ "'")
  | none => pure ()
  match unknown.head?, kr with
  | some (k, _), none => throw (q ++ "() got an unexpected keyword argument '" ++ k ++ "'")
  | _, _ => pure ()
  let given := given ++ known
  let isMissing (n : String) : Bool := !given.any (·.1 == n)
  let missing := required.filter isMissing
  if !missing.isEmpty then
    throw (q ++ "() missing " ++ toString missing.length ++ " required positional " ++
      Signature.plural "argument" missing.length ++ ": " ++
      Signature.joinWords (missing.map Text.quoted))
  let ownDefaults := (optional.zip defaults).filter fun d => isMissing d.1
  let keywordDefaults := (f.keywordDefaults.getD []).filter fun d => isMissing d.1
  let given := given ++ ownDefaults ++ keywordDefaults
  let absent := (ko.map Param.name).filter fun n => !given.any (·.1 == n)
  if !absent.isEmpty then
    throw (q ++ "() missing " ++ toString absent.length ++ " required keyword-only " ++
      Signature.plural "argument" absent.length ++ ": " ++
      Signature.joinWords (absent.map Text.quoted))
  let extra := match rest with
    | some p => [(p.name, Value.tuple (args.drop names.length))]
    | none => []
  let extraKeywords := match kr with
    | some p => [(p.name, Value.dict (unknown.map fun (k, v) => (.str k, v)))]
    | none => []
  return given ++ extra ++ extraKeywords

/-- The frame of a call, in a scope of its own. -/
def FunctionObject.callFrame (f : FunctionObject) (scope : Nat) : Frame :=
  let body := match f.code with
    | .block b => b
    | .expr e => [.simple default (.expr e)]
  let own := f.params.names ++ Closure.ownNames body
  let globalNames := Closure.globalNames body
  { f.frame with
    isFunction := true
    scope := scope
    enclosing := if f.frame.isFunction then f.frame.scope :: f.frame.enclosing else f.frame.enclosing
    own := own
    globalNames := globalNames
    nonlocalNames := Closure.nonlocalNames body
    visible := own :: f.frame.visible.map fun names => names.filter fun n => !globalNames.contains n
    qualifier := f.facts.qualifiedName ++ ".<locals>." }

/-- The frame of a class body. -/
def Frame.classFrame (f : Frame) (scope : Nat) (name : String) (body : List (Stmt Empty)) : Frame :=
  { f with
    isFunction := false
    scope := scope
    enclosing := if f.isFunction then f.scope :: f.enclosing else f.enclosing
    own := []
    globalNames := Closure.globalNames body
    nonlocalNames := Closure.nonlocalNames body
    visible := ["__class__"] :: f.visible
    qualifier := f.qualifier ++ name ++ "."
    className := some name }

/-- The frame of a module. -/
def moduleFrame (scope : Nat) (name file : String) (textNotes : Bool) : Frame :=
  ⟨false, scope, scope, [], [], [], [], [], "", none, name, file, textNotes⟩

/-- Whether a module asks for annotations to be kept as text. -/
def wantsTextNotes (body : List (Stmt Empty)) : Bool :=
  body.any fun
    | .simple _ (.importsFrom (some "__future__") as 0) => as.any (·.name == "annotations")
    | _ => false

/-! ## Members -/

/-- A member of a function: some of its own parts, and what has been added. -/
def FunctionObject.member? (f : FunctionObject) (name : String) : Option Value :=
  match name with
  | "__name__" => some (.str f.name)
  | "__qualname__" => some (.str f.facts.qualifiedName)
  | "__module__" => some (.str f.moduleName)
  | "__doc__" => some f.doc
  | "__defaults__" => some (match f.defaults with
    | some vs => .tuple vs
    | none => .null)
  | "__kwdefaults__" => some (match f.keywordDefaults with
    | some kvs => .dict (kvs.map fun (k, v) => (.str k, v))
    | none => .null)
  | "__annotations__" => some (.dict (f.notes.map fun (k, v) => (.str k, v)))
  | _ => f.members.lookup name

/-- The entries of a dictionary whose keys are texts. -/
def textEntries (es : List (Value × Value)) : List (String × Value) :=
  es.filterMap fun (k, v) =>
    match k with
    | .str s => some (s, v)
    | _ => none

/-- A function with a member changed. -/
def FunctionObject.withMember (f : FunctionObject) (name : String) (v : Value) : FunctionObject :=
  match name, v with
  | "__name__", .str s => { f with name := s }
  | "__qualname__", .str s => { f with facts := { f.facts with qualifiedName := s } }
  | "__module__", .str s => { f with moduleName := s }
  | "__doc__", v => { f with doc := v }
  | "__defaults__", .tuple vs => { f with defaults := some vs }
  | "__defaults__", .null => { f with defaults := none }
  | "__kwdefaults__", .dict es => { f with keywordDefaults := some (textEntries es) }
  | "__kwdefaults__", .null => { f with keywordDefaults := none }
  | "__annotations__", .dict es => { f with notes := textEntries es }
  | _, v => { f with members := putName name v f.members }

/-- A member of a class, its bases included; the first argument bounds how long it is looked
for. -/
def classMember? (m : Machine) (name : String) : Nat → Nat → Option Value
  | 0, _ => none
  | fuel + 1, ref => do
    let c ← m.classes[ref]?
    c.members.lookup name <|> c.bases.findSome? fun
      | .klass base => classMember? m name fuel base
      | _ => none

/-- A member of a value. -/
def memberOf (v : Value) (name : String) : Exec Value := do
  let m ← get
  let found : Option Value := match v with
    | .list ref => if name == "append" then some (.appender ref) else none
    | .function ref => m.functions[ref]?.bind fun f => f.member? name
    | .klass ref =>
      match classMember? m name showDepth ref with
      | some (.wrapped "staticmethod" w) => some w
      | some w => some w
      | none =>
        m.classes[ref]?.bind fun c =>
          if name == "__name__" then some (.str c.name)
          else if name == "__qualname__" then some (.str c.qualifiedName)
          else none
    | .marker k => if name == "__flow_macro__" || name == "__name__" then some (.str k.name) else none
    | .module "sys" =>
      if name == "argv" then some m.arguments
      else if name == "path" then some m.path
      else if name == "exit" then some (.builtin "exit")
      else none
    | .module "os" => if name == "symlink" then some (.builtin name) else none
    | .module n =>
      match m.modules.lookup n with
      | some scope => (m.scopes.getD scope []).lookup name
      | none =>
        if name == "__name__" then some (.str n)
        else if n == packageName then packageMember? n name
        else none
    | _ => none
  match found, v with
  | some w, _ => return w
  | none, .module n =>
    raise (.host "AttributeError" ("module '" ++ n ++ "' has no attribute '" ++ name ++ "'"))
  | none, .klass ref =>
    let c := (m.classes[ref]?.map (·.name)).getD ""
    raise (.host "AttributeError" ("type object '" ++ c ++ "' has no attribute '" ++ name ++ "'"))
  | none, v =>
    raise (.host "AttributeError" ("'" ++ v.typeName ++ "' object has no attribute '" ++ name ++ "'"))

/-- Changes a member of a value. -/
def setMember (v : Value) (name : String) (w : Value) : Exec Unit := do
  match v with
  | .function ref =>
    modify fun m => { m with functions := m.functions.modify ref fun f => f.withMember name w }
  | .klass ref =>
    modify fun m => { m with
      classes := m.classes.modify ref fun c => { c with members := putName name w c.members } }
  | .module "sys" =>
    if name == "argv" then modify fun m => { m with arguments := w }
    else if name == "path" then modify fun m => { m with path := w }
    else unsupported name
  | v =>
    raise (.host "AttributeError" ("'" ++ v.typeName ++ "' object has no attribute '" ++ name ++ "'"))

/-- Changes an item of a list. -/
def setItem (v i w : Value) : Exec Unit := do
  match v with
  | .list ref =>
    let items := (← get).items ref
    match i.int?.bind (position? items.length) with
    | some j => modify fun m => { m with lists := m.lists.modify ref fun xs => xs.set j w }
    | none => raise (.host "IndexError" "list assignment index out of range")
  | v => typeError ("'" ++ v.typeName ++ "' object does not support item assignment")

end JumpMacros.Script
