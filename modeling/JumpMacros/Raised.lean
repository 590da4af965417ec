import JumpMacros.Diagnostic
import JumpMacros.Text.Quoted
import JumpMacros.Tree.Names
import JumpMacros.Tree.Writable

/-!
# Raised errors

What can end an operation early: a diagnostic, or an error of the host that the operation runs
into. A host error has a class and a message.
-/

namespace JumpMacros

open Text (quoted)

/-- Errors of the file system, with the path they concern. -/
inductive FileError where
  | notFound (path : String)
  | exists (path : String)
  | notDirectory (path : String)
  | isDirectory (path : String)
  | denied (path : String)
  | linkLoop (path : String)
deriving DecidableEq, Repr

namespace FileError

def className : FileError → String
  | .notFound _ => "FileNotFoundError"
  | .exists _ => "FileExistsError"
  | .notDirectory _ => "NotADirectoryError"
  | .isDirectory _ => "IsADirectoryError"
  | .denied _ => "PermissionError"
  | .linkLoop _ => "OSError"

def reason : FileError → String
  | .notFound _ => "[Errno 2] No such file or directory"
  | .exists _ => "[Errno 17] File exists"
  | .notDirectory _ => "[Errno 20] Not a directory"
  | .isDirectory _ => "[Errno 21] Is a directory"
  | .denied _ => "[Errno 13] Permission denied"
  | .linkLoop _ => "[Errno 40] Too many levels of symbolic links"

def path : FileError → String
  | .notFound p | .exists p | .notDirectory p | .isDirectory p | .denied p | .linkLoop p => p

def message (e : FileError) : String := e.reason ++ ": " ++ quoted e.path

end FileError

/-- What can end an operation early. -/
inductive Raised where
  | diagnostic (d : Diagnostic)
  /-- A source text holds a null character. -/
  | nullCharacter
  /-- The settings use a name for a macro that no macro has. -/
  | unknownMacro (name : String)
  /-- A tree has no text. -/
  | unwritable (u : Unwritable)
  /-- A tree to be compiled holds a name that it may not hold. -/
  | unusableName (n : UnusableName)
  | file (e : FileError)
  /-- The bytes of a source file have no text. -/
  | undecodable (message : String)
  /-- A macro was called in code that was never expanded. -/
  | notExpanded (name : String)
  /-- A call does not fit the parameters, or a value does not fit an operation. -/
  | typeError (message : String)
  | undefinedName (name : String)
  | divisionByZero
  | valueError (message : String)
  | host (className message : String)
deriving DecidableEq, Repr

namespace Raised

def className : Raised → String
  | .diagnostic d => d.cause.family.name
  | .nullCharacter | .unwritable _ | .unusableName _ | .valueError _ => "ValueError"
  | .unknownMacro _ => "KeyError"
  | .file e => e.className
  | .undecodable _ => "SyntaxError"
  | .notExpanded _ => "NotExpandedError"
  | .typeError _ => "TypeError"
  | .undefinedName _ => "NameError"
  | .divisionByZero => "ZeroDivisionError"
  | .host c _ => c

def message : Raised → String
  | .diagnostic d => d.cause.message
  | .nullCharacter => "source code string cannot contain null bytes"
  | .unknownMacro n => quoted n
  | .unwritable u => u.message
  | .unusableName n => n.text
  | .file e => e.message
  | .undecodable m => m
  | .notExpanded n =>
    n ++ "() was called at run time; expand the enclosing code with @flow_control.expand, " ++
      "flow_control.install() or `flowctl run`"
  | .typeError m => m
  | .undefinedName n => "name '" ++ n ++ "' is not defined"
  | .divisionByZero => "integer division or modulo by zero"
  | .valueError m => m
  | .host _ m => m

end Raised

end JumpMacros
