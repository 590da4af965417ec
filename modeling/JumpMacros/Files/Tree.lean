import JumpMacros.Files.Path
import JumpMacros.Raised
import JumpMacros.Text.Utf8

/-!
# Files

All files there are, as a process finds them. A path is followed name by name, from the root or
from the working directory: only a directory that may be searched has something below it, a double
dot goes back up, and a link leads on to where it points.

A place is where a path has led: the names from the root on, without dots and links. A file may have
names in several places; one of them holds it, the others are hard links to that one. What a process
may do is said of each file and each directory. A device takes what is written to it, keeps nothing
of it, and gives the same bytes whenever it is read.
-/

namespace JumpMacros

open Text (Bytes)

/-- What a process may do with a file or a directory. -/
structure Access where
  read : Bool
  write : Bool
  search : Bool
deriving DecidableEq, Repr

def Access.full : Access := ⟨true, true, true⟩

/-- The names that lead from the root to a file or directory. -/
abbrev FileTree.Place := List String

inductive FileEntry where
  | file (content : Bytes) (access : Access := .full)
  | directory (access : Access := .full)
  | link (target : Path)
  | device (given : Bytes) (access : Access := .full)
  | hardLink (original : FileTree.Place)
deriving DecidableEq, Repr

/-- The files and directories by their places, the working directory, and what a process may do with
the files and directories it makes. -/
structure FileTree where
  entries : List (FileTree.Place × FileEntry)
  workingDirectory : FileTree.Place := []
  created : Access := .full
deriving DecidableEq, Repr

/-- Why a path leads nowhere: something is missing on the way, is no directory, or may not be
searched; or too many links are on the way. -/
inductive Blocked where
  | missing
  | notDirectory
  | denied
  | linkLoop
deriving DecidableEq, Repr

/-- The error for a path that leads nowhere. -/
def Blocked.error (p : Path) : Blocked → FileError
  | .missing => .notFound p.text
  | .notDirectory => .notDirectory p.text
  | .denied => .denied p.text
  | .linkLoop => .linkLoop p.text

namespace FileTree

/-- No files at all. The root is the working directory. -/
def empty : FileTree := { entries := [] }

/-- The entry at a place. The working directory and the directories it is in are there even if they
are not listed. -/
def get? (t : FileTree) (place : Place) : Option FileEntry :=
  match t.entries.lookup place with
  | some (.directory a) => some (.directory a)
  | e => if place.isPrefixOf t.workingDirectory then some .directory else e

/-- Puts an entry at a place. -/
def put (t : FileTree) (place : Place) (e : FileEntry) : FileTree :=
  { t with entries := (place, e) :: t.entries.filter fun x => x.1 != place }

/-! ## Where paths lead -/

/-- What a name leads to: a place, or the target of a link. -/
inductive Reached where
  | place (place : Place)
  | link (target : Path)

/-- What a name in a directory leads to. It need not be there. -/
def below (t : FileTree) (here : Place) (n : String) : Reached :=
  match t.get? (here ++ [n]) with
  | some (.link target) => .link target
  | _ => .place (here ++ [n])

/-- Looks up a name at a place. -/
def enter (t : FileTree) (here : Place) (n : String) : Except Blocked Reached :=
  match t.get? here with
  | none => .error .missing
  | some (.directory a) =>
    if !a.search then .error .denied
    else if n == "." then .ok (.place here)
    else if n == ".." then .ok (.place here.dropLast)
    else .ok (t.below here n)
  | some _ => .error .notDirectory

/-- Follows names from a directory. At a link, `go` follows its target and the names that are
left. -/
def walk (t : FileTree) (go : Place → List String → Except Blocked Place) (here : Place) :
    List String → Except Blocked Place
  | [] => .ok here
  | n :: rest =>
    match t.enter here n with
    | .error b => .error b
    | .ok (.place place) => walk t go place rest
    | .ok (.link target) => go (if target.isAbsolute then [] else here) (target.names ++ rest)

/-- Follows names from a directory, over so many links at most. -/
def follow (t : FileTree) : Nat → Place → List String → Except Blocked Place
  | 0 => t.walk fun _ _ => .error .linkLoop
  | links + 1 => t.walk (t.follow links)

/-- How many links a path may lead over. -/
def linkLimit : Nat := 40

/-- Where a path starts. -/
def start (t : FileTree) (p : Path) : Place := if p.isAbsolute then [] else t.workingDirectory

/-- The place a path leads to. -/
def place (t : FileTree) (p : Path) : Except Blocked Place :=
  t.follow linkLimit (t.start p) p.names

/-- What is at a place, and the place that holds it. -/
def settle (t : FileTree) (place : Place) : Place × Option FileEntry :=
  match t.get? place with
  | some (.hardLink original) => (original, t.get? original)
  | e => (place, e)

/-- What a path leads to, and the place that holds it. -/
def resolve (t : FileTree) (p : Path) : Except Blocked (Place × Option FileEntry) :=
  (t.place p).map t.settle

/-- The path to a place. It starts at the working directory if the place is below it. -/
def pathTo (t : FileTree) (place : Place) : Path :=
  if t.workingDirectory.isPrefixOf place then ⟨false, place.drop t.workingDirectory.length⟩
  else ⟨true, place⟩

/-! ## What is there -/

/-- What is at a path. -/
def stat (t : FileTree) (p : Path) : Except FileError FileEntry :=
  match t.resolve p with
  | .error b => .error (b.error p)
  | .ok (_, none) => .error (.notFound p.text)
  | .ok (_, some e) => .ok e

/-- What is at a path, if that can be told. -/
def lookup (t : FileTree) (p : Path) : Option FileEntry := (t.stat p).toOption

/-- Whether something is at a path. It is an error if the process may not search a directory on the
way. -/
def isThere (t : FileTree) (p : Path) : Except FileError Bool :=
  match t.stat p with
  | .ok _ => .ok true
  | .error (.denied q) => .error (.denied q)
  | .error _ => .ok false

def isDirectory (t : FileTree) (p : Path) : Bool :=
  match t.lookup p with
  | some (.directory _) => true
  | _ => false

def isFile (t : FileTree) (p : Path) : Bool :=
  match t.lookup p with
  | some (.file _ _) => true
  | _ => false

/-- Whether a path leads to a directory whose names may be listed. -/
def isListable (t : FileTree) (p : Path) : Bool :=
  match t.lookup p with
  | some (.directory a) => a.read
  | _ => false

/-- Whether a path leads to a file, and no device, that may be read. -/
def isReadable (t : FileTree) (p : Path) : Bool :=
  match t.lookup p with
  | some (.file _ a) => a.read
  | _ => false

/-- Whether a path leads to a file, and no device, that may be written. -/
def isWritable (t : FileTree) (p : Path) : Bool :=
  match t.lookup p with
  | some (.file _ a) => a.write
  | _ => false

/-! ## Reading and writing -/

/-- The bytes of a file. -/
def read (t : FileTree) (p : Path) : Except FileError Bytes :=
  match t.stat p with
  | .error e => .error e
  | .ok (.file b a) | .ok (.device b a) => if a.read then .ok b else .error (.denied p.text)
  | .ok (.directory a) => .error (if a.read then .isDirectory p.text else .denied p.text)
  | .ok (.link _) | .ok (.hardLink _) => .error (.linkLoop p.text)

/-- Adds an entry where nothing is, not even a link. -/
def add (t : FileTree) (p : Path) (e : FileEntry) : Except FileError FileTree :=
  match p.names.getLast?, t.resolve p.parent with
  | none, _ => .error (.exists p.text)
  | some _, .error b => .error (b.error p)
  | some _, .ok (_, none) => .error (.notFound p.text)
  | some n, .ok (here, some (.directory a)) =>
    if !a.search then .error (.denied p.text)
    else if n == "." || n == ".." || (t.get? (here ++ [n])).isSome then .error (.exists p.text)
    else if !a.write then .error (.denied p.text)
    else .ok (t.put (here ++ [n]) e)
  | some _, .ok (_, some _) => .error (.notDirectory p.text)

/-- Makes one directory; one that exists is kept. -/
def makeOne (t : FileTree) (p : Path) : Except FileError FileTree :=
  match t.add p (.directory t.created) with
  | .ok t' => .ok t'
  | .error (.notFound q) => .error (.notFound q)
  | .error e =>
    match t.stat p with
    | .ok (.directory _) => .ok t
    | .error (.denied q) => .error (.denied q)
    | _ => .error e

/-- Makes a directory and those it is in; `names` are the names of the path from the last to the
first. -/
def makeAll (t : FileTree) (isAbsolute : Bool) : List String → Except FileError FileTree
  | [] => .ok t
  | n :: above =>
    let p : Path := ⟨isAbsolute, (n :: above).reverse⟩
    match t.makeOne p with
    | .error (.notFound _) => do
      let t ← makeAll t isAbsolute above
      t.makeOne p
    | r => r

/-- Makes a directory and those it is in. -/
def makeDirectories (t : FileTree) (p : Path) : Except FileError FileTree :=
  t.makeAll p.isAbsolute p.names.reverse

/-- Whether a process may put something into the directory that a place is in. -/
def mayEnter (t : FileTree) (place : Place) : Bool :=
  match t.get? place.dropLast with
  | some (.directory a) => a.write
  | _ => false

/-- Writes a file into a directory that exists. -/
def write (t : FileTree) (p : Path) (content : Bytes) : Except FileError FileTree :=
  match t.resolve p with
  | .error b => .error (b.error p)
  | .ok (place, none) =>
    if t.mayEnter place then .ok (t.put place (.file content t.created)) else .error (.denied p.text)
  | .ok (place, some (.file _ a)) =>
    if a.write then .ok (t.put place (.file content a)) else .error (.denied p.text)
  | .ok (_, some (.device _ a)) => if a.write then .ok t else .error (.denied p.text)
  | .ok (_, some (.directory _)) => .error (.isDirectory p.text)
  | .ok (_, some (.link _)) | .ok (_, some (.hardLink _)) => .error (.linkLoop p.text)

end FileTree

end JumpMacros
