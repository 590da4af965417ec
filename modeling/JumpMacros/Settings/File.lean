import JumpMacros.Files.Source
import JumpMacros.Settings
import JumpMacros.Text.Identifier
import JumpMacros.Yaml.Document

/-!
# Settings files

A settings file is a YAML document that holds a mapping. `Overrides.ofYaml` says which values are
settings: the first problem in a fixed order is reported, unknown keys first, then the implicit
names, then the package, then the beginning of flag names. `loadOverrides` starts from the file.
-/

namespace JumpMacros.Settings

open Text

namespace Overrides

/-- The keys a settings file may have. -/
def knownKeys : List String := ["implicit_names", "package", "flag_prefix"]

/-- The text of a value that is one. -/
def text? : Yaml → Option String
  | .text s => some s
  | _ => none

/-- The names for one macro. -/
def namesOf (name : String) : Yaml → Except SettingsProblem (List String)
  | .list (x :: xs) =>
    match (x :: xs).mapM text? with
    | some names => if names.all isIdentifier then .ok names else .error (.notIdentifiers name)
    | none => .error (.notIdentifiers name)
  | _ => .error (.notList name)

/-- The implicit names, macro by macro. -/
def namesByMacro : List (Yaml × Yaml) → Except SettingsProblem (List (String × List String))
  | [] => .ok []
  | (k, v) :: rest => do
    match text? k with
    | some name =>
      if !Macro.names.contains name then throw (.unknownMacro name Macro.names)
      let names ← namesOf name v
      return (name, names) :: (← namesByMacro rest)
    | none =>
      if k.isTooLong then throw .unwritableKey else throw (.unknownMacro k.keyText Macro.names)

def implicitNamesOf : Yaml → Except SettingsProblem (List (String × List String))
  | .map entries => namesByMacro entries
  | _ => .error .implicitNotMapping

def packageOf (v : Yaml) : Except SettingsProblem String :=
  match text? v with
  | some s => if isDottedIdentifier s then .ok s else .error (.notIdentifier "package")
  | none => .error (.notIdentifier "package")

def flagPrefixOf (v : Yaml) : Except SettingsProblem String :=
  match text? v with
  | some s =>
    if !isDottedIdentifier s then .error (.notIdentifier "flag_prefix")
    else if (dottedParts s).length ≠ 1 then .error .dottedFlagPrefix
    else .ok s
  | none => .error (.notIdentifier "flag_prefix")

/-- The texts of the keys that no setting has, in order. -/
def unknownKeys (entries : List (Yaml × Yaml)) : List String :=
  let keys := entries.filterMap fun (k, _) =>
    match k with
    | .text s => if knownKeys.contains s then none else some s
    | _ => some k.keyText
  keys.mergeSort fun a b => decide (a ≤ b)

/-- The overrides that a document's value holds. -/
def ofYaml : Yaml → Except SettingsProblem Overrides
  | .null => .ok empty
  | .map entries => do
    if entries.any fun e => e.1.isTooLong then throw .unwritableKey
    let unknown := unknownKeys entries
    if !unknown.isEmpty then throw (.unknownKeys unknown)
    let names ← (Yaml.get? entries "implicit_names").mapM implicitNamesOf
    let package ← (Yaml.get? entries "package").mapM packageOf
    let flagPrefix ← (Yaml.get? entries "flag_prefix").mapM flagPrefixOf
    return ⟨names, package, flagPrefix⟩
  | _ => .error .notMapping

end Overrides

/-- Loads a settings file. A missing file is not a diagnostic: callers word it themselves. -/
def loadOverrides (files : FileTree) (path : String) : Except Raised Overrides :=
  let p := Path.ofString path
  let fail (c : Cause) : Except Raised Overrides := .error (.diagnostic (.ofFile c (some p.text)))
  match readText files p with
  | .error (.inl (.notFound q)) => .error (.file (.notFound q))
  | .error (.inl e) => fail (.settingsUnreadable e.message)
  | .error (.inr f) => fail (.settingsUnreadable f.message)
  | .ok text =>
    match Yaml.read text with
    | .error (.malformed m) => fail (.settingsUnparsable m)
    | .error (.unreadable u) => .error (.host u.className u.message)
    | .ok v =>
      match Overrides.ofYaml v with
      | .error .unwritableKey => .error (.valueError Decimal.tooLongToWrite)
      | .error p => fail (.settingsInvalid p)
      | .ok o => .ok o

/-- The settings from a file; without one, or with an empty path, the default settings. -/
def load (files : FileTree) (path : Option String) : Except Raised Settings :=
  match path with
  | none => .ok default
  | some p => if p.isEmpty then .ok default else (loadOverrides files p).map ofOverrides

end JumpMacros.Settings
