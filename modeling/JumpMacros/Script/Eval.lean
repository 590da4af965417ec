import JumpMacros.Import
import JumpMacros.Script.Call
import JumpMacros.Tree.NoteText

/-!
# Running scripts

Expressions have values and statements have effects on the machine. All functions take a number
of steps that bounds how deep they call each other, so that they end on every script; a script
that needs more stops as exhausted.

The language is a small part of the host's: definitions, assignments, loops, branches, `try`,
imports, calls, whole numbers, texts, tuples, lists and dictionaries.
-/

namespace JumpMacros.Script

/-- Where exceptions that are kinds of others belong. -/
def ancestors : List (String × List String) :=
  [("ZeroDivisionError", ["ArithmeticError"]), ("IndexError", ["LookupError"]),
    ("KeyError", ["LookupError"]), ("UnboundLocalError", ["NameError"]),
    ("ModuleNotFoundError", ["ImportError"]), ("NotExpandedError", ["RuntimeError"]),
    ("ShapeMismatchError", ["FlowError"]), ("ExpansionError", ["FlowError"]),
    ("LabelResolutionError", ["FlowError"]), ("SourceLoadError", ["FlowError"]),
    ("ConfigError", ["FlowError"]), ("FileNotFoundError", ["OSError"])]

/-- Whether a handler for a class of exceptions catches what stopped a script. -/
def catches (handler : String) : Stop → Bool
  | .raised r =>
    ["Exception", "BaseException", r.className].contains handler ||
      ((ancestors.lookup r.className).getD []).contains handler
  | .exits _ => ["SystemExit", "BaseException"].contains handler
  | .exhausted => false

/-- Whether a handler with a value for its type catches what stopped a script. -/
def Value.catches (stop : Stop) : Value → Bool
  | .type n | .external n => Script.catches n stop
  | .tuple vs => vs.any fun
    | .type n | .external n => Script.catches n stop
    | _ => false
  | _ => false

/-- The text that a caught exception is shown as. -/
def Stop.message : Stop → String
  | .raised r => r.message
  | .exits n => toString n
  | .exhausted => ""

/-- The module with a name, in some directories, and how it is to be loaded: through a finder that
takes it on, or else as it is. -/
def locate (m : Machine) (dirs : List String) (name : String) :
    Option (String × Option Settings) :=
  let byHook := m.session.finders.order.findSome? fun f =>
    f.settings?.bind fun s =>
      (findModule s m.files name dirs).map fun spec => (spec.origin, some s)
  match byHook with
  | some r => some r
  | none =>
    match searchPath m.files (lastPart name) dirs with
    | .source origin _ => some (origin, none)
    | _ => none

/-- The tree of a source text that is taken as it is. What is wrong with it is raised by the
compiler itself. -/
def plainSource (path text : String) : Except Raised (Module Empty) :=
  let hostError (d : Diagnostic) : Raised :=
    .host "SyntaxError" (d.cause.message ++ " (" ++ (Path.ofString path).name ++ ", line " ++
      toString (d.line.getD 0) ++ ")")
  match parseSource path text with
  | .error (.diagnostic d) => .error (hostError d)
  | .error e => .error e
  | .ok tree =>
    match tree.refused false with
    | some x => .error (hostError (x.diagnostic path))
    | none => .ok tree

/-- The tree of a module that is loaded as it is. -/
def plainModule (files : FileTree) (path : String) : Except Raised (Module Empty) :=
  match files.read (Path.ofString path) with
  | .error e => .error (.file (e.showing path))
  | .ok bytes =>
    match Text.decodeSource bytes with
    | .error e => .error (.ofDecodeError e)
    | .ok text => plainSource path text

/-- The tree of a module. -/
def moduleTree (files : FileTree) (path : String) : Option Settings → Except Raised (Module Empty)
  | some s => (loadModule s files path).map (·.module)
  | none => plainModule files path

/-- The modules of the host that scripts may import. -/
def hostModules : List String := ["os", "sys"]

/-- Whether a name is that of the package or of a part of it. -/
def isPackage (name : String) : Bool := name == packageName || name.startsWith (packageName ++ ".")

/-- Gives a function made anew what the first one had. -/
def FunctionObject.inherit (new old : FunctionObject) : FunctionObject :=
  { new with
    defaults := old.defaults
    keywordDefaults := old.keywordDefaults
    facts := { new.facts with qualifiedName := old.facts.qualifiedName }
    moduleName := old.moduleName
    doc := old.doc
    members := old.members.foldl (fun ms (k, v) => putName k v ms) new.members }

mutual

/-- The value of an expression. -/
def evalExpr (fuel : Nat) (f : Frame) (e : Expr) : Exec Value := do
  match fuel with
  | 0 => throw .exhausted
  | fuel + 1 =>
    match e with
    | .name _ id _ => f.lookup id
    | .const _ c => return literal c
    | .attr _ v member => memberOf (← evalExpr fuel f v) (mangled f.className member)
    | .subscript _ v i =>
      let base ← evalExpr fuel f v
      subscript base (← evalExpr fuel f i)
    | .call _ g as ks =>
      let callee ← evalExpr fuel f g
      let args ← evalItems fuel f as
      let kws ← evalKeywords fuel f ks
      callValue fuel callee args kws
    | .unary _ op v => unary op (← evalExpr fuel f v)
    | .binary _ op a b =>
      let x ← evalExpr fuel f a
      binary op (BinaryOp.symbol op) x (← evalExpr fuel f b)
    | .boolean _ op es => evalBoolean fuel f op es
    | .compare _ a cs => evalChain fuel f (← evalExpr fuel f a) cs
    | .conditional _ t a b =>
      if (← evalExpr fuel f t).isTrue (← get) then evalExpr fuel f a else evalExpr fuel f b
    | .lambda pos ps b =>
      let vars := Closure.lambdaVariables f.visible ps.names b
      let facts : FunctionFacts :=
        ⟨f.qualifier ++ "<lambda>", f.file, pos.line, pos.line, true, vars⟩
      makeFunction fuel f "<lambda>" facts ps none .null (.expr b)
    | .display _ .tuple es => return .tuple (← evalItems fuel f es)
    | .display _ .list es => newList (← evalItems fuel f es)
    | .dict _ es => evalEntries fuel f es
    | .named _ (.name _ id _) v =>
      let w ← evalExpr fuel f v
      f.bind id w
      return w
    | _ => unsupported "expression"

/-- The values of arguments and list items; a star spreads its value. -/
def evalItems (fuel : Nat) (f : Frame) (es : List Expr) : Exec (List Value) := do
  match fuel with
  | 0 => throw .exhausted
  | fuel + 1 =>
    match es with
    | [] => return []
    | .starred _ e :: rest =>
      let vs ← itemsOf (← evalExpr fuel f e)
      return vs ++ (← evalItems fuel f rest)
    | e :: rest =>
      let v ← evalExpr fuel f e
      return v :: (← evalItems fuel f rest)

/-- The values of keyword arguments. -/
def evalKeywords (fuel : Nat) (f : Frame) (ks : List Keyword) : Exec (List (String × Value)) := do
  match fuel with
  | 0 => throw .exhausted
  | fuel + 1 =>
    match ks with
    | [] => return []
    | .mk _ name e :: rest =>
      let v ← evalExpr fuel f e
      let more ← evalKeywords fuel f rest
      match name, v with
      | some n, v => return (n, v) :: more
      | none, .dict es => return textEntries es ++ more
      | none, v => typeError ("argument after ** must be a mapping, not " ++ v.typeName)

/-- The value of a dictionary display. -/
def evalEntries (fuel : Nat) (f : Frame) (es : List Entry) : Exec Value := do
  match fuel with
  | 0 => throw .exhausted
  | fuel + 1 =>
    match es with
    | [] => return .dict []
    | .pair k v :: rest =>
      let key ← evalExpr fuel f k
      let value ← evalExpr fuel f v
      match ← evalEntries fuel f rest with
      | .dict more =>
        -- a later value replaces that of an equal key
        match ← more.findM? fun e => equal e.1 key with
        | some (k', w) =>
          let others ← more.filterM fun e => return !(← equal e.1 k')
          return .dict ((key, w) :: others)
        | none => return .dict ((key, value) :: more)
      | other => return other
    | .spread _ :: _ => unsupported "dictionary"

/-- The value of `and` and `or`: the first operand that decides. -/
def evalBoolean (fuel : Nat) (f : Frame) (op : BoolOp) (es : List Expr) : Exec Value := do
  match fuel with
  | 0 => throw .exhausted
  | fuel + 1 =>
    match es with
    | [] => return .null
    | [e] => evalExpr fuel f e
    | e :: rest =>
      let v ← evalExpr fuel f e
      if v.isTrue (← get) == (op == .or) then return v else evalBoolean fuel f op rest

/-- The value of a chain of comparisons; the first that fails ends it. -/
def evalChain (fuel : Nat) (f : Frame) (left : Value) (cs : List Comparand) : Exec Value := do
  match fuel with
  | 0 => throw .exhausted
  | fuel + 1 =>
    match cs with
    | [] => return .bool true
    | .mk op e :: rest =>
      let right ← evalExpr fuel f e
      if ← compared op left right then evalChain fuel f right rest else return .bool false

/-- Calls a value. -/
def callValue (fuel : Nat) (callee : Value) (args : List Value) (kws : List (String × Value)) :
    Exec Value := do
  match fuel with
  | 0 => throw .exhausted
  | fuel + 1 =>
    match callee with
    | .function ref =>
      match (← get).functions[ref]? with
      | none => unsupported "function"
      | some g =>
        match bindArguments g args kws with
        | .error m => typeError m
        | .ok names =>
          let frame := g.callFrame (← newScope names)
          match g.code with
          | .expr e => evalExpr fuel frame e
          | .block b =>
            match ← execBlock fuel frame b with
            | .returns v => return v
            | _ => return .null
    | .marker k => raise (k.call (args.length + kws.length))
    | .builtin name => callBuiltin name args kws
    | .external name => callExternal name args
    | .type name => callType name args
    | .appender ref =>
      match args with
      | [v] =>
        modify fun m => { m with lists := m.lists.modify ref fun xs => xs ++ [v] }
        return .null
      | _ => typeError ("list.append() takes exactly one argument (" ++ toString args.length ++
          " given)")
    | .expand =>
      match args with
      | [] | [.null] => return .expander .default
      | v :: _ => expandFunction fuel .default v
    | .expander s =>
      match args with
      | v :: _ => expandFunction fuel s v
      | [] => typeError "missing function"
    | v => typeError ("'" ++ v.typeName ++ "' object is not callable")

/-- Makes a function: its default values are computed now, and so are its annotations unless they
are kept as text. -/
def makeFunction (fuel : Nat) (f : Frame) (name : String) (facts : FunctionFacts) (ps : Params)
    (returns : Option Expr) (doc : Value) (code : Code) : Exec Value := do
  match fuel with
  | 0 => throw .exhausted
  | fuel + 1 =>
    let private_ (n : String) : String := mangled f.className n
    let defaults ← evalItems fuel f ((positionalOf ps).filterMap Param.default)
    let withDefaults := (keywordOnlyOf ps).filter fun p => p.default.isSome
    let keywordDefaults ← evalItems fuel f (withDefaults.filterMap Param.default)
    let noted := ((annotationOrder ps).filterMap fun p => p.note.map fun e => (private_ p.name, e)) ++
      returns.toList.map fun e => ("return", e)
    let notes ← if f.textNotes then pure (noted.map fun n => .str n.2.note)
      else evalItems fuel f (noted.map (·.2))
    newFunction {
      name := name
      facts := facts
      moduleName := f.moduleName
      doc := doc
      params := ps
      paramNames := (positionalOf ps ++ keywordOnlyOf ps).map fun p => private_ p.name
      defaults := if defaults.isEmpty then none else some defaults
      keywordDefaults := if withDefaults.isEmpty then none
        else some ((withDefaults.map fun p => private_ p.name).zip keywordDefaults)
      notes := (noted.map (·.1)).zip notes
      members := []
      code := code
      frame := f }

/-- Makes a function anew with its macro calls expanded. -/
def expandFunction (fuel : Nat) (s : Settings) (v : Value) : Exec Value := do
  match fuel with
  | 0 => throw .exhausted
  | fuel + 1 =>
    let m ← get
    let function? : Option FunctionObject := match v with
      | .function ref => m.functions[ref]?
      | _ => none
    match function? with
    | none =>
      typeError ("@expand needs a plain function, got " ++ v.typeName ++
        "; place it below any other decorator")
    | some g =>
      let text := match m.files.read (Path.ofString g.facts.file) with
        | .ok bytes => (Text.decodeSource bytes).toOption
        | .error _ => none
      let d ← liftExcept (g.facts.definition text)
      let (log, result) := expandDefinition s g.frame.textNotes
        (m.namespaceOf g.frame.globals) g.facts.file d
      modify fun m => { m with log := log.toList ++ m.log }
      let e ← liftExcept result
      let scope ← newScope []
      let frame := { moduleFrame scope g.moduleName g.facts.file g.frame.textNotes with
        globals := g.frame.globals }
      let _ ← execBlock fuel frame e.module.body
      match (← scopeNames scope).reverse with
      | (_, .function ref) :: _ =>
        modify fun m => { m with functions := m.functions.modify ref fun new => new.inherit g }
        return .function ref
      | _ => unsupported "function"

/-- Assigns a value to a target. -/
def assign (fuel : Nat) (f : Frame) (target : Expr) (v : Value) : Exec Unit := do
  match fuel with
  | 0 => throw .exhausted
  | fuel + 1 =>
    match target with
    | .name _ id _ => f.bind id v
    | .attr _ base member => do setMember (← evalExpr fuel f base) (mangled f.className member) v
    | .subscript _ base i =>
      let w ← evalExpr fuel f base
      setItem w (← evalExpr fuel f i) v
    | .display _ _ ts =>
      let vs ← itemsOf v
      let counts := "(expected " ++ toString ts.length
      if vs.length < ts.length then
        raise (.valueError ("not enough values to unpack " ++ counts ++ ", got " ++
          toString vs.length ++ ")"))
      else if vs.length > ts.length then
        raise (.valueError ("too many values to unpack " ++ counts ++ ")"))
      else assignAll fuel f (ts.zip vs)
    | _ => unsupported "target"

def assignAll (fuel : Nat) (f : Frame) (pairs : List (Expr × Value)) : Exec Unit := do
  match fuel with
  | 0 => throw .exhausted
  | fuel + 1 =>
    match pairs with
    | [] => return
    | (t, v) :: rest =>
      assign fuel f t v
      assignAll fuel f rest

/-- Imports a module by its name, unless that has been done before. -/
def importModule (fuel : Nat) (name : String) : Exec Value := do
  match fuel with
  | 0 => throw .exhausted
  | fuel + 1 =>
    let m ← get
    if hostModules.contains name || isPackage name || (m.modules.lookup name).isSome then return .module name
    else
      let dirs := textsAmong (← itemsOf m.path)
      match locate m dirs name with
      | none => raise (.host "ModuleNotFoundError" ("No module named '" ++ name ++ "'"))
      | some (path, settings) =>
        let tree ← liftExcept (moduleTree m.files path settings)
        let scope ← newScope [("__name__", .str name), ("__file__", .str path)]
        modify fun m => { m with modules := (name, scope) :: m.modules }
        let frame := moduleFrame scope name path (wantsTextNotes tree.body)
        let r ← ExceptT.lift (execBlock fuel frame tree.body).run
        match r with
        | .ok _ => return .module name
        | .error e =>
          modify fun m => { m with modules := m.modules.filter fun x => x.1 != name }
          throw e

/-- Binds what modules are imported as. -/
def importAll (fuel : Nat) (f : Frame) (as : List Alias) : Exec Unit := do
  match fuel with
  | 0 => throw .exhausted
  | fuel + 1 =>
    match as with
    | [] => return
    | a :: rest =>
      let v ← importModule fuel a.name
      match a.asName with
      | some n => f.bind n v
      | none =>
        let root := Text.rootOf a.name
        f.bind root (if root == a.name then v else .module root)
      importAll fuel f rest

/-- Binds what names are imported from a module. -/
def importNames (fuel : Nat) (f : Frame) (path : String) (as : List Alias) : Exec Unit := do
  match fuel with
  | 0 => throw .exhausted
  | fuel + 1 =>
    if path == "__future__" then
      for a in as do f.bind a.bound (.external a.name)
    else
      let module ← importModule fuel path
      let m ← get
      for a in as do
        if a.name == "*" then
          if isPackage path then
            for n in Macro.names ++ packageExports do
              match packageMember? path n with
              | some v => f.bind n v
              | none => pure ()
          else
            let names := ((m.modules.lookup path).map fun s => m.scopes.getD s []).getD []
            for (n, v) in names do
              if !n.startsWith "_" then f.bind n v
        else
          let found : Option Value :=
            if isPackage path then packageMember? path a.name
            else (m.modules.lookup path).bind fun s => (m.scopes.getD s []).lookup a.name
          match found with
          | some v => f.bind a.bound v
          | none =>
            if hostModules.contains path then f.bind a.bound (← memberOf module a.name)
            else
              let file := ((m.modules.lookup path).bind fun s =>
                (m.scopes.getD s []).lookup "__file__").getD .null
              raise (.host "ImportError" ("cannot import name '" ++ a.name ++ "' from '" ++
                path ++ "' (" ++ (← textOf file) ++ ")"))

/-- Runs a simple statement. -/
def execSimple (fuel : Nat) (f : Frame) (s : Simple) : Exec Flow := do
  match fuel with
  | 0 => throw .exhausted
  | fuel + 1 =>
    match s with
    | .expr e =>
      let _ ← evalExpr fuel f e
      return .next
    | .assign ts e =>
      let v ← evalExpr fuel f e
      assignAll fuel f (ts.map fun t => (t, v))
      return .next
    | .augmented t op e =>
      let old ← evalExpr fuel f t
      let v ← evalExpr fuel f e
      match op, old with
      | .add, .list ref =>
        let more ← itemsOf v
        modify fun m => { m with lists := m.lists.modify ref fun xs => xs ++ more }
        assign fuel f t old
      | op, old => assign fuel f t (← binary op (BinaryOp.symbol op ++ "=") old v)
      return .next
    | .annotated t n v _ =>
      match v with
      | some e => assign fuel f t (← evalExpr fuel f e)
      | none => pure ()
      if !f.isFunction && !f.textNotes then
        let _ ← evalExpr fuel f n
      return .next
    | .breaks => return .breaks
    | .continues => return .continues
    | .returns none => return .returns .null
    | .returns (some e) => return .returns (← evalExpr fuel f e)
    | .pass | .globals _ | .nonlocals _ => return .next
    | .imports as =>
      importAll fuel f as
      return .next
    | .importsFrom (some path) as 0 =>
      importNames fuel f path as
      return .next
    | _ => unsupported "statement"

/-- Runs a loop over the items from a position on. -/
def execFor (fuel : Nat) (f : Frame) (target : Expr) (items : Value) (i : Nat)
    (body orelse : List (Stmt Empty)) : Exec Flow := do
  match fuel with
  | 0 => throw .exhausted
  | fuel + 1 =>
    match ← itemAt items i with
    | none => execBlock fuel f orelse
    | some v =>
      assign fuel f target v
      match ← execBlock fuel f body with
      | .breaks => return .next
      | .returns v => return .returns v
      | _ => execFor fuel f target items (i + 1) body orelse

/-- Runs a loop as long as a test holds. -/
def execWhile (fuel : Nat) (f : Frame) (test : Expr) (body orelse : List (Stmt Empty)) :
    Exec Flow := do
  match fuel with
  | 0 => throw .exhausted
  | fuel + 1 =>
    if (← evalExpr fuel f test).isTrue (← get) then
      match ← execBlock fuel f body with
      | .breaks => return .next
      | .returns v => return .returns v
      | _ => execWhile fuel f test body orelse
    else execBlock fuel f orelse

/-- Runs the first handler that catches what stopped a script. -/
def execHandlers (fuel : Nat) (f : Frame) (stop : Stop) (hs : List (Handler Empty)) :
    Exec Flow := do
  match fuel with
  | 0 => throw .exhausted
  | fuel + 1 =>
    match hs with
    | [] => throw stop
    | .mk _ type name body :: rest =>
      let isCaught ← match type with
        | none => pure true
        | some t => pure ((← evalExpr fuel f t).catches stop)
      if isCaught then
        match name with
        | some n => f.bind n (.str stop.message)
        | none => pure ()
        execBlock fuel f body
      else execHandlers fuel f stop rest

/-- Applies decorators, the last one first. -/
def decorate (fuel : Nat) (decorators : List Value) (v : Value) : Exec Value := do
  match fuel with
  | 0 => throw .exhausted
  | fuel + 1 =>
    match decorators with
    | [] => return v
    | d :: rest =>
      let w ← decorate fuel rest v
      callValue fuel d [w] []

/-- Runs a statement. -/
def execStmt (fuel : Nat) (f : Frame) (s : Stmt Empty) : Exec Flow := do
  match fuel with
  | 0 => throw .exhausted
  | fuel + 1 =>
    match s with
    | .simple _ s => execSimple fuel f s
    | .branch _ t b o =>
      if (← evalExpr fuel f t).isTrue (← get) then execBlock fuel f b else execBlock fuel f o
    | .loop _ (.over false t i) b o =>
      let items ← evalExpr fuel f i
      execFor fuel f t items 0 b o
    | .loop _ (.whilst t) b o => execWhile fuel f t b o
    | .function sp h b =>
      let ds ← evalItems fuel f h.decorators
      let vars := Closure.freeVariables f.textNotes f.visible h.params.names b
      let facts : FunctionFacts :=
        ⟨f.qualifier ++ h.name, f.file, h.firstLine, sp.endLine, false, vars⟩
      let v ← makeFunction fuel f h.name facts h.params h.returns (docOf b) (.block b)
      f.bind (mangled f.className h.name) (← decorate fuel ds v)
      return .next
    | .klass _ h b =>
      let ds ← evalItems fuel f h.decorators
      let bases ← evalItems fuel f h.bases
      let scope ← newScope [("__module__", .str f.moduleName),
        ("__qualname__", .str (f.qualifier ++ h.name))]
      let _ ← execBlock fuel (f.classFrame scope h.name b) b
      let m ← get
      let c : ClassObject :=
        ⟨h.name, f.qualifier ++ h.name, f.moduleName, bases, m.scopes.getD scope []⟩
      set { m with classes := m.classes.push c }
      f.bind (mangled f.className h.name) (← decorate fuel ds (.klass m.classes.size))
      return .next
    | .attempt _ false b hs o final =>
      let tried ← ExceptT.lift (execBlock fuel f b).run
      let handled ← match tried with
        | .ok .next => ExceptT.lift (execBlock fuel f o).run
        | .ok flow => pure (.ok flow)
        | .error stop => ExceptT.lift (execHandlers fuel f stop hs).run
      match ← execBlock fuel f final with
      | .next =>
        match handled with
        | .ok flow => return flow
        | .error stop => throw stop
      | flow => return flow
    | _ => unsupported "statement"

/-- Runs statements until one of them leaves the block. -/
def execBlock (fuel : Nat) (f : Frame) (ss : List (Stmt Empty)) : Exec Flow := do
  match fuel with
  | 0 => throw .exhausted
  | fuel + 1 =>
    match ss with
    | [] => return .next
    | s :: rest =>
      match ← execStmt fuel f s with
      | .next => execBlock fuel f rest
      | flow => return flow

end

end JumpMacros.Script
