import JumpMacros.CommandLine.Arguments
import JumpMacros.CommandLine.Payload
import JumpMacros.CommandLine.TextTable
import JumpMacros.Script.Run
import JumpMacros.Settings.File

/-!
# The commands

`expand` shows or writes a file with its macros expanded, `check` tells whether a file can be
expanded and compiled, `run` runs a script, and `macros` lists the macros. A command is a function
from the files and its arguments to an `Outcome`; it reads the settings first and stops at the
first step that fails.
-/

namespace JumpMacros

/-- What a command leaves behind: an exit status, what it printed, and the files. `raised` is an
error that the command did not expect. -/
structure Outcome where
  status : Int
  out : String
  err : String
  files : FileTree
  session : Session
  raised : Option Raised

/-- The surroundings of a command. -/
structure Surroundings where
  files : FileTree
  session : Session

namespace Outcome

/-- A command that printed something and did nothing else. -/
def printing (w : Surroundings) (status : Int) (out err : String) : Outcome :=
  ⟨status, out, err, w.files, w.session, none⟩

/-- A command that ran into an error. -/
def crash (w : Surroundings) (r : Raised) : Outcome := ⟨1, "", "", w.files, w.session, some r⟩

/-- The same outcome after something else was printed. -/
def after (o : Outcome) (err : String) : Outcome := { o with err := err ++ o.err }

end Outcome

/-! ## Reports -/

/-- Diagnostics for reading, a line each. -/
def Diagnostic.report (ds : List Diagnostic) : String :=
  String.join ((Diagnostic.sort ds).map fun d => d.text ++ "\n")

def Diagnostic.payload (d : Diagnostic) : Payload :=
  .object [("code", .str d.cause.code), ("message", .str d.cause.message),
    ("file", .option .str d.file), ("line", .option .int d.line), ("col", .option .int d.col),
    ("severity", .str "error"), ("kind", .str d.cause.family.name)]

def Record.payload (r : Record) : Payload :=
  .object [("macro", .str r.name), ("shape", .str r.shape),
    ("line", .option (fun n : Nat => .int n) r.line), ("col", .option (fun n : Nat => .int n) r.col)]

/-- The structured report of a command. `source` is there for commands that show it. -/
def reportPayload (command : String) (ds : List Diagnostic) (records : List Record)
    (source : Option Payload) : Payload :=
  .object ([("tool", .str "flowctl"), ("command", .str command), ("ok", .bool ds.isEmpty),
    ("error_count", .int ds.length), ("errors", .list ((Diagnostic.sort ds).map Diagnostic.payload)),
    ("records", .list (records.map Record.payload))] ++ source.toList.map fun s => ("source", s))

/-- How results are shown. -/
inductive Format where
  | text
  | json
deriving DecidableEq, Repr

def Format.ofName? : String → Option Format
  | "text" => some .text
  | "json" => some .json
  | _ => none

/-! ## Steps -/

/-- The format asked for; another one is an error of its own. -/
def Arguments.format (a : Arguments) : Except Diagnostic Format :=
  let name := (a.value? "--format").getD "text"
  match Format.ofName? name with
  | some f => .ok f
  | none => .error (.ofFile (.unknownFormat name) none)

/-- The settings asked for, or what is wrong with them and the exit status for that. -/
def Arguments.settings (a : Arguments) (files : FileTree) :
    Except (Sum Raised (Diagnostic × Int)) Settings :=
  let path := a.value? "--config"
  match Settings.load files path with
  | .ok s => .ok (if a.hasFlag "--implicit" then s.withBareNames else s)
  | .error (.file (.notFound _)) =>
    .error (.inr (.ofFile (.settingsNotFound (path.getD "")) path, 1))
  | .error (.diagnostic d) => .error (.inr (d, 2))
  | .error r => .error (.inl r)

/-- What expanding a file gives. -/
inductive Attempt where
  | expanded (e : Expanded)
  | failed (ds : List Diagnostic)
  | crashed (r : Raised)

/-- Loads and expands a file. -/
def expandPath (files : FileTree) (s : Settings) (path : String) : Attempt :=
  match loadSource files path with
  | .error (.diagnostic d) => .failed [d]
  | .error r => .crashed r
  | .ok text =>
    match parseSource path text with
    | .error (.diagnostic d) => .failed [d]
    | .error r => .crashed r
    | .ok m =>
      match expandModule s (some path) m with
      | .ok e => .expanded e
      | .error (.diagnostics ds) => .failed ds
      | .error e => .crashed e.raised

/-- Loads, expands and compiles a file. -/
def checkPath (files : FileTree) (s : Settings) (path : String) : Attempt :=
  match expandPath files s path with
  | .expanded e =>
    match compileModule path false e.module with
    | .ok _ => .expanded e
    | .error (.diagnostic d) => .failed [d]
    | .error r => .crashed r
  | other => other

/-- Stops with diagnostics. -/
def refuse (w : Surroundings) (status : Int) (ds : List Diagnostic) : Outcome :=
  .printing w status "" (Diagnostic.report ds)

/-- Reads the settings and goes on with them. -/
def withSettings (w : Surroundings) (a : Arguments) (go : Settings → Outcome) : Outcome :=
  match a.settings w.files with
  | .ok s => go s
  | .error (.inl r) => .crash w r
  | .error (.inr (d, status)) => refuse w status [d]

/-- Reads the format and the settings and goes on with them. -/
def withFormat (w : Surroundings) (a : Arguments) (go : Format → Settings → Outcome) : Outcome :=
  match a.format with
  | .error d => refuse w 2 [d]
  | .ok f => withSettings w a (go f)

/-- The path that a command was given. -/
def Arguments.path (a : Arguments) : String := a.positional.headD ""

/-! ## The commands -/

/-- What an expansion reports about each macro call. -/
def Record.note (path : String) (r : Record) : String :=
  let place : Option Nat → String
    | some n => toString n
    | none => "None"
  path ++ ":" ++ place r.line ++ ":" ++ place r.col ++ ": " ++ r.name ++ r.shape ++ "\n"

/-- Shows or writes a file with its macros expanded. -/
def expandCommand (w : Surroundings) (a : Arguments) : Outcome :=
  withFormat w a fun format s =>
    let path := a.path
    match expandPath w.files s path with
    | .crashed r => .crash w r
    | .failed ds =>
      match format with
      | .text => refuse w (Diagnostic.exitCode ds) ds
      | .json => .printing w (Diagnostic.exitCode ds)
          ((reportPayload "expand" ds [] (some .null)).text ++ "\n") ""
    | .expanded e =>
      let notes := if a.hasFlag "--verbose" then String.join (e.records.map (Record.note path)) else ""
      let target := (a.value? "--out").filter fun t => !t.isEmpty
      let written := match target with
        | some t => (writeSource w.files t e.source).map fun files => { w with files := files }
        | none => .ok w
      match written with
      | .error err => (Outcome.crash w (.file err)).after notes
      | .ok w =>
        let out := match format, target with
          | .json, some _ => (reportPayload "expand" [] e.records none).text
          | .json, none => (reportPayload "expand" [] e.records (some (.str e.source))).text
          | .text, some t => "OK: wrote expanded source to " ++ t
          | .text, none => e.source
        .printing w 0 (out ++ "\n") notes

/-- Tells whether a file can be expanded and compiled. -/
def checkCommand (w : Surroundings) (a : Arguments) : Outcome :=
  withFormat w a fun format s =>
    match checkPath w.files s a.path with
    | .crashed r => .crash w r
    | .failed ds =>
      match format with
      | .text => refuse w (Diagnostic.exitCode ds) ds
      | .json => .printing w (Diagnostic.exitCode ds)
          ((reportPayload "check" ds [] none).text ++ "\n") ""
    | .expanded e =>
      match format with
      | .text => .printing w 0 ("OK: " ++ toString e.records.length ++ " invocation(s) expanded\n") ""
      | .json => .printing w 0 ((reportPayload "check" [] e.records none).text ++ "\n") ""

/-- The outcome of a script that ended in some way, after it printed something. -/
def scriptOutcome (w : Surroundings) (out : String) : Option Script.Stop → Outcome
  | none => .printing w 0 out ""
  | some (.exits n) => .printing w n out ""
  | some (.raised (.diagnostic d)) => { refuse w (Diagnostic.exitCode [d]) [d] with out := out }
  | some (.raised r) => { Outcome.crash w r with out := out }
  | some .exhausted =>
    { Outcome.crash w (.host "RecursionError" "maximum recursion depth exceeded") with out := out }

/-- Runs a script with the arguments that are not the command's own. -/
def runCommand (w : Surroundings) (a : Arguments) : Outcome :=
  withSettings w a fun s =>
    match Script.runPath w.files w.session s a.path (a.positional.drop 1) with
    | (.error (.diagnostic d), session) =>
      refuse { w with session := session } (Diagnostic.exitCode [d]) [d]
    | (.error r, session) => .crash { w with session := session } r
    | (.ok r, session) => scriptOutcome ⟨r.machine.files, session⟩ r.machine.printed r.stop

/-- The table of the macros and the shapes they accept, in order of their names. -/
def macroTable : TextTable where
  title := "flow_control macros"
  headers := ["macro", "shape", "summary"]
  rows := (Macro.all.mergeSort fun a b => decide (a.name ≤ b.name)).flatMap fun m =>
    m.rules.map fun r => [m.name, m.name ++ r.describe, m.summary]

def macrosCommand (w : Surroundings) : Outcome := .printing w 0 macroTable.text ""

/-! ## The command line -/

def valueOption (name : String) : OptionSpec := ⟨name, none, true⟩

def flagOption (name : String) : OptionSpec := ⟨name, none, false⟩

def expandSpec : CommandSpec :=
  ⟨"expand", [valueOption "--out", valueOption "--config", valueOption "--format",
    flagOption "--implicit", ⟨"--verbose", some 'v', false⟩], true, false⟩

def checkSpec : CommandSpec :=
  ⟨"check", [valueOption "--config", valueOption "--format", flagOption "--implicit"], true, false⟩

def runSpec : CommandSpec :=
  ⟨"run", [valueOption "--config", flagOption "--implicit"], true, true⟩

def macrosSpec : CommandSpec := ⟨"macros", [], false, false⟩

/-- The commands with what they do. -/
def commands : List (CommandSpec × (Surroundings → Arguments → Outcome)) :=
  [(expandSpec, expandCommand), (checkSpec, checkCommand), (runSpec, runCommand),
    (macrosSpec, fun w _ => macrosCommand w)]

/-- How the program or a command is used. -/
def usage : Option CommandSpec → String
  | none => "Usage: flowctl [OPTIONS] COMMAND [ARGS]...\n"
  | some c =>
    "Usage: flowctl " ++ c.name ++ " [OPTIONS]" ++ (if c.needsPath then " PATH" else "") ++
      (if c.passesOn then " [ARGS]..." else "") ++ "\n"

/-- Runs a command by its name. -/
def dispatch (w : Surroundings) (name : String) (args : List String) : Outcome :=
  match commands.find? fun c => c.1.name == name with
  | none => .printing w 2 "" (usage none)
  | some (c, go) =>
    match c.read args with
    | .help => .printing w 0 (usage c) ""
    | .misuse => .printing w 2 "" (usage c)
    | .go a => go w a

/-- Takes the options before the command: there is only the one for help. -/
def leading (w : Surroundings) (help : Bool) : List String → Outcome
  | [] => if help then .printing w 0 (usage none) "" else .printing w 2 "" (usage none)
  | "--" :: rest =>
    if help then .printing w 0 (usage none) ""
    else
      match rest with
      | [] => .printing w 2 "" (usage none)
      | name :: args => dispatch w name args
  | "--help" :: rest => leading w true rest
  | arg :: rest =>
    if arg.startsWith "-" && arg.length > 1 then .printing w 2 "" (usage none)
    else if help then .printing w 0 (usage none) ""
    else dispatch w arg rest

/-- Runs the program with its arguments. Without any it tells how it is used. -/
def commandLine (w : Surroundings) (args : List String) : Outcome :=
  if args.isEmpty then .printing w 2 (usage none) "" else leading w false args

end JumpMacros
