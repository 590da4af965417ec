import JumpMacros.CommandLine.Command

/-!
# The program

`main` gathers the files that the arguments can lead to, runs the command on them, and carries out
what the command left behind. Everything else is decided by `commandLine`.
-/

namespace JumpMacros.Program

/-- A file of the file system, with its bytes if they may be read. -/
def fileAt (path : String) : IO FileEntry := do
  try return .file (← IO.FS.readBinFile path).toList
  catch _ => return .file [] { Access.full with read := false }

/-- What the file system has at a path, all links followed, and its place. A device counts as an
empty file, so that what a command writes to it is stored. -/
def entryAt (path : String) : IO (Option (FileTree.Place × FileEntry)) := do
  try
    let real ← IO.FS.realPath path
    let place := (Path.ofString real.toString).names
    if ← real.isDir then return some (place, .directory)
    if (← real.metadata).type != .file then return some (place, .file [])
    return some (place, ← fileAt real.toString)
  catch _ => return none

/-- Adds what the file system has under a name in a directory, and a link to it if it is somewhere
else. The place of what was found comes with it. -/
def gather (t : FileTree) (here : FileTree.Place) (name : String) : IO (FileTree × FileTree.Place) := do
  if name == ".." then return (t, here.dropLast)
  let place := here ++ [name]
  match ← entryAt (Path.text ⟨true, place⟩) with
  | none => return (t, place)
  | some (real, e) =>
    let t := if real == place then t else t.put place (.link ⟨true, real⟩)
    return (t.put real e, real)

/-- Adds a path, and the directories that lead to it. -/
def gatherPath (t : FileTree) (p : Path) : IO (FileTree × FileTree.Place) :=
  p.names.foldlM (fun (t, here) n => gather t here n) (t, t.start p)

/-- Adds the modules of a directory. -/
def gatherModules (t : FileTree) (directory : Path) : IO FileTree := do
  let (t, here) ← gatherPath t directory
  try
    let entries ← (← IO.FS.realPath (Path.text ⟨true, here⟩)).readDir
    entries.toList.foldlM (fun t e => do
      let (t, inner) ← gather t here e.fileName
      if e.fileName.contains '.' then return t
      else return (← gather t inner "__init__.py").1) t
  catch _ => return t

/-- The files that arguments can lead to: those they name, and the modules beside these. -/
def gatherAll (args : List String) : IO FileTree := do
  let here := (Path.ofString (← IO.currentDir).toString).names
  let above := (List.range here.length).map fun i => (here.take (i + 1), FileEntry.directory)
  let start : FileTree := { entries := above, workingDirectory := here }
  args.foldlM (fun t arg => do
    let p := Path.ofString (((arg.splitOn "=").getLast?).getD arg)
    let (t, _) ← gatherPath t p
    if p.suffix == "" then return t else gatherModules t p.parent) start

/-- Writes the entries that differ from those `before`, directories first. -/
def store (before after : FileTree) : IO Unit := do
  let changed := after.entries.reverse.filter fun (place, e) => before.get? place != some e
  for (place, e) in changed do
    if let .directory _ := e then IO.FS.createDirAll (Path.text ⟨true, place⟩)
  for (place, e) in changed do
    if let .file bytes _ := e then
      IO.FS.writeBinFile (Path.text ⟨true, place⟩) (ByteArray.mk bytes.toArray)

end JumpMacros.Program

open JumpMacros in
/-- Runs a command of the program. -/
def main (args : List String) : IO UInt32 := do
  let files ← Program.gatherAll args
  let o := commandLine ⟨files, Session.idle⟩ args
  IO.print o.out
  IO.eprint o.err
  Program.store files o.files
  if let some r := o.raised then IO.eprintln (r.className ++ ": " ++ r.message)
  return (o.status % 256).toNat.toUInt32
