import JumpMacros.Files.Tree
import JumpMacros.Source
import JumpMacros.Text.Encoding

/-!
# Importing modules

Where a module is found, and what is loaded for it. A directory is searched for a package first
and for a source file second; compiled files hide source files further on. A finder that expands
macros declines modules whose bytes never name the package, because there is nothing to expand in
them, and the package itself.
-/

namespace JumpMacros

open Text (Bytes Utf8.encode)

/-- What a search for a module finds in a directory. -/
inductive Found where
  | nothing
  | source (origin : String) (isPackage : Bool)
  | compiled

/-- The text after the last full stop. -/
def lastPart (name : String) : String :=
  String.ofList ((name.toList.reverse.takeWhile (· != '.')).reverse)

/-- The text of a path in a directory, which keeps the directory as it is written. Nothing is
written for the working directory. -/
def inDirectory (dir name : String) : String :=
  if dir.isEmpty || dir == "." then name
  else String.ofList (dir.toList.reverse.dropWhile (· == '/')).reverse ++ "/" ++ name

/-- The ends of the names of files with native code, which are searched for first. -/
def nativeSuffixes : List String := [".cpython-311-x86_64-linux-gnu.so", ".abi3.so", ".so"]

/-- Searches for the file of a module: native code, source, then compiled source. -/
def searchFiles (files : FileTree) (stem : String) (isPackage : Bool) : Found :=
  let isFile (suffix : String) : Bool := files.isFile (.ofString (stem ++ suffix))
  if nativeSuffixes.any isFile then .compiled
  else if isFile ".py" then .source (stem ++ ".py") isPackage
  else if isFile ".pyc" then .compiled
  else .nothing

/-- Searches a directory for a module, as a package first. No module has a slash in its name, and
none is found in a directory whose names may not be listed. -/
def searchDirectory (files : FileTree) (dir name : String) : Found :=
  if name.contains '/' || !files.isListable (.ofString dir) then .nothing
  else
    match searchFiles files (inDirectory dir (name ++ "/__init__")) true with
    | .nothing => searchFiles files (inDirectory dir name) false
    | found => found

/-- Searches directories in order. Those that do not exist are passed over. -/
def searchPath (files : FileTree) (name : String) : List String → Found
  | [] => .nothing
  | d :: ds =>
    if !files.isDirectory (.ofString d) then searchPath files name ds
    else
      match searchDirectory files d name with
      | .nothing => searchPath files name ds
      | found => found

/-- A module that has been found: its name, its file, and whether it is a package. -/
structure ModuleSpec where
  name : String
  origin : String
  isPackage : Bool
deriving DecidableEq, Repr

/-- Whether a sequence occurs in another one. -/
def occurs (pattern : Bytes) : Bytes → Bool
  | [] => pattern.isEmpty
  | b :: bs => pattern.isPrefixOf (b :: bs) || occurs pattern bs

/-- Whether the bytes of a file name the package. -/
def mentions (s : Settings) (files : FileTree) (path : String) : Bool :=
  match files.read (Path.ofString path) with
  | .ok bytes => occurs (Utf8.encode s.package) bytes
  | .error _ => false

/-- Whether a module is the package or one of its parts. -/
def Settings.owns (s : Settings) (name : String) : Bool :=
  name == s.package || name.startsWith (s.package ++ ".")

/-- The module that a finder with these settings takes on. -/
def findModule (s : Settings) (files : FileTree) (name : String) (dirs : List String) :
    Option ModuleSpec :=
  if s.owns name then none
  else
    match searchPath files (lastPart name) dirs with
    | .source origin isPackage =>
      if mentions s files origin then some ⟨name, origin, isPackage⟩ else none
    | _ => none

/-- What is raised for bytes without a text. -/
def Raised.ofDecodeError (e : Text.DecodeError) : Raised :=
  if e.isDeclared then .undecodable e.message else .host "UnicodeDecodeError" e.message

/-- Expands and compiles the bytes of a source file. -/
def compileBytes (s : Settings) (path : String) (bytes : Bytes) : Except Raised Expanded :=
  match Text.decodeSource bytes with
  | .error e => .error (.ofDecodeError e)
  | .ok text => compileSource s path text

/-- A file error that shows the path as it was given. -/
def FileError.showing (path : String) : FileError → FileError
  | .notFound _ => .notFound path
  | .exists _ => .exists path
  | .notDirectory _ => .notDirectory path
  | .isDirectory _ => .isDirectory path
  | .denied _ => .denied path
  | .linkLoop _ => .linkLoop path

/-- Loads a module from its file. -/
def loadModule (s : Settings) (files : FileTree) (path : String) : Except Raised Expanded :=
  match files.read (Path.ofString path) with
  | .error e => .error (.file (e.showing path))
  | .ok bytes => compileBytes s path bytes

end JumpMacros
