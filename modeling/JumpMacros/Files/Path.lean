/-!
# Paths

A path is a list of names. Empty names and single dots are dropped when a path is read; a double
dot stays and is resolved against the files.
-/

namespace JumpMacros

/-- A path: whether it starts at the root of all files or at the working directory, and its
names. -/
structure Path where
  isAbsolute : Bool
  names : List String
deriving DecidableEq, Repr

namespace Path

/-- Reads a path. -/
def ofString (s : String) : Path where
  isAbsolute := s.startsWith "/"
  names := (s.splitOn "/").filter fun n => n != "" && n != "."

/-- Reads the target of a link. Its dots stay, and a slash at its end counts as one: what they stand
behind has to be a directory. -/
def ofLink (s : String) : Path where
  isAbsolute := s.startsWith "/"
  names := (s.splitOn "/").filter (· != "") ++ if s.endsWith "/" then ["."] else []

/-- The text of a path; the empty path is a dot. -/
def text (p : Path) : String :=
  let body := "/".intercalate p.names
  if p.isAbsolute then "/" ++ body else if p.names.isEmpty then "." else body

/-- The directory a path is in. -/
def parent (p : Path) : Path := { p with names := p.names.dropLast }

/-- The last name of a path. -/
def name (p : Path) : String := p.names.getLast?.getD ""

/-- The part of the last name from its last dot on, if the dot is neither first nor last. -/
def suffix (p : Path) : String :=
  let cs := p.name.toList
  let tail := cs.reverse.takeWhile (· != '.')
  let stem := cs.length - tail.length
  if tail.isEmpty || stem ≤ 1 then "" else String.ofList ('.' :: tail.reverse)

end Path

end JumpMacros
