import JumpMacros.Files.Tree

/-!
# Source files

Loading reads a file as UTF-8 text and unifies its line ends; only files with the suffix of a
source file are read. Writing makes the directories a file is in and ends the text with a line
end.
-/

namespace JumpMacros

open Text

/-- The suffixes of source files, in lower case. -/
def sourceSuffixes : List String := [".py", ".pyw"]

/-- The text of a file with its line ends unified, or why it could not be read. -/
def readText (files : FileTree) (p : Path) : Except (Sum FileError Utf8.Failure) String :=
  match files.read p with
  | .error e => .error (.inl e)
  | .ok bytes =>
    match Utf8.decode bytes with
    | .error f => .error (.inr f)
    | .ok s => .ok (String.ofList (unifyLineEnds s.toList))

/-- Loads a source file. -/
def loadSource (files : FileTree) (path : String) : Except Raised String :=
  let p := Path.ofString path
  let fail (c : Cause) : Except Raised String := .error (.diagnostic (.ofFile c (some p.text)))
  match files.isThere p with
  | .error e => .error (.file e)
  | .ok false => fail .fileNotFound
  | .ok true =>
    if !sourceSuffixes.contains (p.suffix.map Char.toLower) then fail .unsupportedFormat
    else
      match readText files p with
      | .ok s => .ok s
      | .error (.inl e) => fail (.fileUnreadable e.message)
      | .error (.inr f) => fail (.fileUnreadable f.message)

/-- The text that is written for a source: it ends with a line end. -/
def withFinalLineEnd (text : String) : String :=
  if text.endsWith "\n" then text else text ++ "\n"

/-- Writes a source file. -/
def writeSource (files : FileTree) (path text : String) : Except FileError FileTree := do
  let p := Path.ofString path
  let files ← if p.parent.names.isEmpty then pure files else files.makeDirectories p.parent
  files.write p (Utf8.encode (withFinalLineEnd text))

end JumpMacros
