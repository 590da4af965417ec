import JumpMacros.Files.Source
import JumpMacros.Script.Eval

/-!
# Running a script as the main module

`runPathBy` loads, expands and compiles a script and runs it in a session of its own. If the script
cannot be loaded or compiled the session is not touched; otherwise it is put back however the
script ends. `runPath` runs it on the machine.
-/

namespace JumpMacros.Script

/-- How many steps a script may take in depth. -/
def stepLimit : Nat := 100000

/-- A script that has run: why it stopped early, if it did, and the machine it ran on. Its own
scope is the first one. -/
structure Finished where
  stop : Option Stop
  machine : Machine

/-- The value a name of the script has in the end. -/
def Finished.global? (r : Finished) (name : String) : Option Value :=
  (r.machine.scopes.getD 0 []).lookup name

/-- Runs the body of a module in a scope that starts with some names. -/
def runModule (files : FileTree) (session : Session) (name file : String)
    (names : List (String × Value)) (m : Module Empty) : Finished :=
  let start : List (String × Value) :=
    [("__name__", .str name), ("__doc__", docOf m.body), ("__file__", .str file)]
  let run : Exec Flow := do
    let scope ← newScope (start ++ names)
    execBlock stepLimit (moduleFrame scope name file (wantsTextNotes m.body)) m.body
  match run.run (Machine.empty files session) with
  | (.ok _, machine) => ⟨none, machine⟩
  | (.error stop, machine) => ⟨some stop, machine⟩

/-- What a script leaves in the place of a list of the host. -/
def Machine.hostList (m : Machine) : Value → HostList
  | .list ref => .list (textsAmong (m.items ref))
  | v => .fixed v.typeName ((v.items? m).map textsAmong)

/-- The session as a script leaves it. -/
def Machine.left (m : Machine) : Session :=
  { m.session with
    arguments := m.hostList m.arguments
    searchPath := m.hostList m.path }

/-- The directory of a script, with all links followed. -/
def scriptDirectory (files : FileTree) (path : String) : String :=
  let p := Path.ofString path
  match files.place p with
  | .ok place => (files.pathTo place.dropLast).text
  | .error _ => p.parent.text

/-- Loads, expands and compiles a script. -/
def compilePath (files : FileTree) (s : Settings) (path : String) : Except Raised Expanded := do
  let text ← loadSource files path
  compileSource s path text

/-- Runs a script as the main module, where `run` says what it does. -/
def runPathBy {α : Type} (run : Expanded → Session → α × Session) (files : FileTree)
    (session : Session) (s : Settings) (path : String) (arguments : List String) :
    Except Raised (Ended α) × Session :=
  match compilePath files s path with
  | .error r => (.error r, session)
  | .ok e =>
    let directory := scriptDirectory files path
    let (ended, after) := session.around s path directory arguments (run e)
    (.ok ended, after)

/-- A script that was run as the main module. What goes wrong around it takes the place of why it
stopped. -/
def Finished.ofEnded (files : FileTree) (session : Session) : Ended Finished → Finished
  | .unstarted r => ⟨some (.raised r), Machine.empty files session⟩
  | .ran f none => f
  | .ran f (some r) => { f with stop := some (.raised r) }

/-- Expands a script and runs it as the main module. -/
def runPath (files : FileTree) (session : Session) (s : Settings) (path : String)
    (arguments : List String) : Except Raised Finished × Session :=
  let run (e : Expanded) (inner : Session) : Finished × Session :=
    let r := runModule files inner "__main__" path [] e.module
    (r, r.machine.left)
  let (result, after) := runPathBy run files session s path arguments
  (result.map (Finished.ofEnded files session), after)

end JumpMacros.Script
