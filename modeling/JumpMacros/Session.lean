import JumpMacros.Hook
import JumpMacros.Raised

/-!
# Sessions

What outlives a script: the arguments, the directories that are searched for modules, the main
module, and the finders. `Session.around` runs a body that may change all of it, and puts it back
afterwards; the hook is taken out again if it was put in for the body.

The directories are put back into what is there in their place, and that can fail, because anyone
can put something there that takes no texts. Then the arguments and the main module stay as the body
left them.
-/

namespace JumpMacros

/-- A value of another type in the place of a list: the texts in it, if it can be gone through, and
the errors it raises when a text is put in front and when other texts are put in the place of all.
Where it raises none it does what a list does. -/
structure Lookalike where
  typeName : String
  texts : Option (List String)
  insertFault : Option Raised
  refillFault : Option Raised
deriving DecidableEq, Repr

/-- What stands where the host keeps a list of texts, if anything does. -/
inductive HostList where
  | list (texts : List String)
  | lookalike (value : Lookalike)
  | absent
deriving DecidableEq, Repr

namespace HostList

/-- A value that takes no texts. -/
def fixed (typeName : String) (texts : Option (List String)) : HostList :=
  .lookalike {
    typeName, texts
    insertFault := some (.host "AttributeError"
      ("'" ++ typeName ++ "' object has no attribute 'insert'"))
    refillFault := some (.typeError
      (if typeName == "dict" then "unhashable type: 'slice'"
        else "'" ++ typeName ++ "' object does not support item assignment")) }

/-- A list that nothing stands in the place of. -/
def missing (name : String) : Raised :=
  .host "AttributeError" ("module 'sys' has no attribute '" ++ name ++ "'")

/-- The texts, if there are any. -/
def texts : HostList → List String
  | .list ts => ts
  | .lookalike v => v.texts.getD []
  | .absent => []

/-- A copy of the texts. -/
def copy (name : String) : HostList → Except Raised (List String)
  | .list ts => .ok ts
  | .lookalike v =>
    match v.texts with
    | some ts => .ok ts
    | none => .error (.typeError ("'" ++ v.typeName ++ "' object is not iterable"))
  | .absent => .error (missing name)

/-- Puts a text in front. -/
def insertFirst (name x : String) : HostList → Except Raised HostList
  | .list ts => .ok (.list (x :: ts))
  | .lookalike v =>
    match v.insertFault with
    | none => .ok (.lookalike { v with texts := some (x :: v.texts.getD []) })
    | some r => .error r
  | .absent => .error (missing name)

/-- Why other texts cannot be put in place of all that are there, if they cannot. -/
def refillFault (name : String) : HostList → Option Raised
  | .list _ => none
  | .lookalike v => v.refillFault
  | .absent => some (missing name)

/-- What stands there with other texts in place of all. -/
def refilled (texts : List String) : HostList → HostList
  | .list _ => .list texts
  | .lookalike v => .lookalike { v with texts := some texts }
  | .absent => .absent

/-- Puts other texts in place of all that are there. -/
def refill (name : String) (texts : List String) (l : HostList) : Except Raised HostList :=
  match l.refillFault name with
  | none => .ok (l.refilled texts)
  | some r => .error r

end HostList

/-- The state that a script shares with its surroundings. There may be no main module, or its name
may be barred. -/
structure Session where
  arguments : HostList
  searchPath : HostList
  mainModule : Option (Option String)
  finders : Finders
deriving DecidableEq, Repr

/-- How a body ends that is run as a script: it is not started, or it has run, and putting the
session back may have failed. -/
inductive Ended (α : Type) where
  | unstarted (r : Raised)
  | ran (a : α) (fault : Option Raised)

namespace Session

/-- A session in which nothing has been set up. -/
def idle : Session := ⟨.list [], .list [], none, Finders.none⟩

/-- The directories that are searched, which are kept while a script runs. -/
def kept (s : Session) : Except Raised (List String) :=
  match s.arguments with
  | .absent => .error (HostList.missing "argv")
  | _ => s.searchPath.copy "path"

/-- The session a script starts in, with the directories that are kept: the script is the main
module and finds itself first among the arguments, its directory is searched first, and the hook is
installed. -/
def enter (s : Session) (settings : Settings) (script directory : String)
    (arguments : List String) : Except Raised (List String) × Session :=
  match s.kept with
  | .error r => (.error r, s)
  | .ok directories =>
    let named := { s with
      mainModule := some (some script)
      arguments := .list (script :: arguments) }
    match s.searchPath.insertFirst "path" directory with
    | .error r => (.error r, named)
    | .ok path => (.ok directories, { named with
        searchPath := path
        finders := if s.finders.isInstalled then s.finders else (s.finders.install settings).1 })

/-- The session after a script: everything is as it was `before`, except for the hook if it was
not put in for the script. A name that was barred is free then. If the directories cannot be put
back, nothing after them is. -/
def leave (after before : Session) (directories : List String) : Option Raised × Session :=
  let after := { after with
    finders := if before.finders.isInstalled then after.finders else after.finders.uninstall }
  match after.searchPath.refill "path" directories with
  | .error r => (some r, after)
  | .ok path => (none, { after with
      searchPath := path
      arguments := before.arguments
      mainModule := before.mainModule.filter Option.isSome })

/-- Runs a body as a script. -/
def around {α : Type} (s : Session) (settings : Settings) (script directory : String)
    (arguments : List String) (body : Session → α × Session) : Ended α × Session :=
  match s.enter settings script directory arguments with
  | (.error r, s) => (.unstarted r, s)
  | (.ok directories, inner) =>
    let (a, after) := body inner
    let (fault, left) := after.leave s directories
    (.ran a fault, left)

end Session

end JumpMacros
