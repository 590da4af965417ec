import JumpMacros.Script.Run

/-!
# Looking into modules

A module is run, and functions in it are found by paths: a path goes through the members of
classes as they are kept there, and calls what it has reached. `Metadata` is what a function says
about itself.
-/

namespace JumpMacros.Script

/-- What a function says about itself. -/
structure Metadata where
  name : String
  qualifiedName : String
  moduleName : String
  doc : Option String
  defaults : String
  keywordDefaults : String
  notes : String
  members : String
  line : Nat
  params : List String
deriving DecidableEq, Repr

/-- What a function value says about itself. -/
def metadataOf (v : Value) : Exec Metadata := do
  let m ← get
  let named (kvs : List (String × Value)) : Value := .dict (kvs.map fun (k, w) => (.str k, w))
  match v with
  | .function ref =>
    match m.functions[ref]? with
    | none => unsupported "function"
    | some f =>
      return {
        name := f.name
        qualifiedName := f.facts.qualifiedName
        moduleName := f.moduleName
        doc := match f.doc with
          | .str s => some s
          | _ => none
        defaults := ← shown ((f.defaults.map Value.tuple).getD .null)
        keywordDefaults := ← shown ((f.keywordDefaults.map named).getD .null)
        notes := ← shown (named f.notes)
        members := ← shown (named f.members)
        line := f.facts.firstLine
        params := f.paramNames }
  | v => raise (.host "AttributeError"
      ("'" ++ v.typeName ++ "' object has no attribute '__name__'"))

/-- A member as a class keeps it, or any other member. -/
def keptMember (v : Value) (name : String) : Exec Value := do
  match v with
  | .klass ref =>
    match (← get).classes[ref]?.bind fun c => c.members.lookup name with
    | some w => return w
    | none => raise (.host "KeyError" (Text.quoted name))
  | v => memberOf v name

/-- Goes on from a value along the steps of a path; a pair of brackets is a call. -/
def followSteps (v : Value) : List String → Exec Value
  | [] => return v
  | step :: rest => do
    let w ← if step == "()" then callValue stepLimit v [] [] else keptMember v step
    followSteps w rest

/-- The value at the end of a path that starts in a scope. -/
def followPath (scope : Nat) (path : String) : Exec Value := do
  match path.splitOn "." with
  | [] => unsupported "path"
  | first :: rest =>
    match (← scopeNames scope).lookup first with
    | some v => followSteps v rest
    | none => raise (.host "KeyError" (Text.quoted first))

/-- What is asked of a module: a function to expand, with its settings, and functions to look
at. -/
structure Inspection where
  expanded : Option (String × Settings)
  inspected : List String

/-- What is found: the expanded function, and the functions that were looked at. -/
structure Findings where
  expanded : Option Metadata
  inspected : List Metadata

/-- Answers what is asked of a module that has run. -/
def Inspection.answer (i : Inspection) : Exec Findings := do
  let expanded ← i.expanded.mapM fun (path, s) => do
    metadataOf (← expandFunction stepLimit s (← followPath 0 path))
  let inspected ← i.inspected.mapM fun path => do metadataOf (← followPath 0 path)
  return ⟨expanded, inspected⟩

/-- Runs a source text as a module and looks into it: the findings or why there are none, and what
became of expanding functions, in order. -/
def inspectSource (files : FileTree) (name file text : String) (i : Inspection) :
    Except Stop Findings × List ExpansionLog :=
  match plainSource file text with
  | .error r => (.error (.raised r), [])
  | .ok m =>
    let r := runModule files Session.idle name file [("expand", .expand)] m
    match r.stop with
    | some stop => (.error stop, r.machine.log.reverse)
    | none =>
      let (findings, machine) := i.answer.run r.machine
      (findings, machine.log.reverse)

end JumpMacros.Script
