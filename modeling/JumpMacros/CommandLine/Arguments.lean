/-!
# Command-line arguments

Options may stand anywhere among the other arguments, up to a double dash. An option that takes a
value has it behind an equals sign or in the next argument, whatever that is. Options of one
letter take no value and can be joined. A command that passes on arguments takes an option that it
does not know for one of them.
-/

namespace JumpMacros

/-- An option of a command: its long name, its letter, and whether it takes a value. -/
structure OptionSpec where
  name : String
  letter : Option Char
  takesValue : Bool
deriving DecidableEq, Repr

/-- A command: its name, its options, whether it needs a path, and whether it passes on what it
does not know. -/
structure CommandSpec where
  name : String
  options : List OptionSpec
  needsPath : Bool
  passesOn : Bool

/-- The arguments of a command, sorted out. -/
structure Arguments where
  values : List (String × String)
  flags : List String
  positional : List String
deriving DecidableEq, Repr

namespace Arguments

def empty : Arguments := ⟨[], [], []⟩

def addValue (a : Arguments) (name value : String) : Arguments :=
  { a with values := a.values ++ [(name, value)] }

def addFlag (a : Arguments) (name : String) : Arguments := { a with flags := a.flags ++ [name] }

def addPositional (a : Arguments) (ps : List String) : Arguments :=
  { a with positional := a.positional ++ ps }

/-- The last value that an option was given. -/
def value? (a : Arguments) (name : String) : Option String := a.values.reverse.lookup name

def hasFlag (a : Arguments) (name : String) : Bool := a.flags.contains name

end Arguments

/-- The option that asks for help. -/
def helpOption : OptionSpec := ⟨"--help", none, false⟩

namespace CommandSpec

def allOptions (c : CommandSpec) : List OptionSpec := c.options ++ [helpOption]

/-- An argument before and after its first equals sign. -/
def splitValue (arg : String) : String × Option String :=
  let cs := arg.toList
  let name := cs.takeWhile (· != '=')
  if name.length < cs.length then
    (String.ofList name, some (String.ofList (cs.drop (name.length + 1))))
  else (arg, none)

/-- Takes joined letters as options. `none` means that the command does not know one of them. -/
def letters (c : CommandSpec) (a : Arguments) (arg : String) : Option Arguments :=
  let cs := arg.toList.drop 1
  let find (l : Char) : Option OptionSpec := c.allOptions.find? fun o => o.letter == some l
  let known := cs.filterMap find
  let unknown := cs.filter fun l => (find l).isNone
  let a := known.foldl (fun a o => a.addFlag o.name) a
  if unknown.isEmpty then some a
  else if c.passesOn then some (a.addPositional ["-" ++ String.ofList unknown])
  else none

/-- Sorts out arguments. `none` means that they do not fit the command. -/
def sortOut (c : CommandSpec) (a : Arguments) : List String → Option Arguments
  | [] => some a
  | "--" :: rest => some (a.addPositional rest)
  | arg :: rest =>
    if !(arg.startsWith "-" && arg.length > 1) then sortOut c (a.addPositional [arg]) rest
    else
      let (name, value) := splitValue arg
      match c.allOptions.find? (·.name == name), value, rest with
      | some o, some v, rest => if o.takesValue then sortOut c (a.addValue name v) rest else none
      | some o, none, [] => if o.takesValue then none else some (a.addFlag name)
      | some o, none, v :: more =>
        if o.takesValue then sortOut c (a.addValue name v) more
        else sortOut c (a.addFlag name) (v :: more)
      | none, _, rest =>
        if arg.startsWith "--" then
          if c.passesOn then sortOut c (a.addPositional [arg]) rest else none
        else (letters c a arg).bind fun a => sortOut c a rest

/-- What the arguments of a command ask for. -/
inductive Request where
  | help
  | misuse
  | go (a : Arguments)

/-- Reads the arguments of a command: a path where one is needed, and nothing more unless the
command passes it on. -/
def read (c : CommandSpec) (args : List String) : Request :=
  match c.sortOut .empty args with
  | none => .misuse
  | some a =>
    let paths := if c.needsPath then 1 else 0
    if a.hasFlag helpOption.name then .help
    else if a.positional.length < paths then .misuse
    else if a.positional.length > paths && !c.passesOn then .misuse
    else .go a

end CommandSpec

end JumpMacros
