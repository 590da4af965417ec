import JumpMacros.Compile.Refusal
import JumpMacros.Token.Fault

/-!
# Diagnostics

Everything the library can have against a program, a settings file or a source file is a `Cause`;
a diagnostic is a cause with a place. A cause determines the family, the code and the wording of
its diagnostic. Diagnostics are reported in the order of file, line, column and code.
-/

namespace JumpMacros

/-- The families of diagnostics. -/
inductive Family where
  | general
  | sourceLoad
  | shapeMismatch
  | expansion
  | labelResolution
  | config
deriving DecidableEq, Repr

def Family.name : Family → String
  | .general => "FlowError"
  | .sourceLoad => "SourceLoadError"
  | .shapeMismatch => "ShapeMismatchError"
  | .expansion => "ExpansionError"
  | .labelResolution => "LabelResolutionError"
  | .config => "ConfigError"

def Family.ofName? (s : String) : Option Family :=
  [Family.general, .sourceLoad, .shapeMismatch, .expansion, .labelResolution, .config].find?
    (·.name == s)

/-- What is wrong with the arguments of a macro call. -/
inductive ShapeProblem where
  | keywords
  | starred
  | count (n : Nat)
deriving DecidableEq, Repr

def ShapeProblem.text : ShapeProblem → String
  | .keywords => "keyword arguments are not accepted"
  | .starred => "starred arguments are not accepted"
  | .count n => "got " ++ toString n ++ " argument(s)"

/-- What is wrong with the contents of a settings file. A key that has too many digits to be
written is not put into words but ends reading. -/
inductive SettingsProblem where
  | notMapping
  | unknownKeys (keys : List String)
  | implicitNotMapping
  | unknownMacro (name : String) (known : List String)
  | notList (name : String)
  | notIdentifiers (name : String)
  | notIdentifier (key : String)
  | dottedFlagPrefix
  | unwritableKey
deriving DecidableEq, Repr

def SettingsProblem.text : SettingsProblem → String
  | .notMapping => "config file must be a mapping"
  | .unknownKeys ks => "unknown config keys: " ++ ", ".intercalate ks
  | .implicitNotMapping => "implicit_names must be a mapping of macro -> list[str]"
  | .unknownMacro n known =>
    "unknown macro '" ++ n ++ "' (choose from: " ++ ", ".intercalate known ++ ")"
  | .notList n => "implicit_names." ++ n ++ " must be a non-empty list"
  | .notIdentifiers n => "implicit_names." ++ n ++ " items must be identifiers"
  | .notIdentifier k => k ++ " must be a valid identifier"
  | .dottedFlagPrefix => "flag_prefix must not contain dots"
  | .unwritableKey => Decimal.tooLongToWrite

/-- What a diagnostic reports. `given` is a diagnostic made elsewhere. -/
inductive Cause where
  | given (family : Family) (code message : String)
  | fileNotFound
  | unsupportedFormat
  | fileUnreadable (reason : String)
  | unparsable (kind : FaultKind)
  | refused (why : Refusal)
  | shapeMismatch (name : String) (expected : List String) (problem : ShapeProblem)
  | misplacedCall (name : String)
  | invalidLabel (text : String)
  | labelWithoutLoop
  | unknownLabel (name : String)
  | closure (function : String) (names : List String)
  | sourceUnavailable (function reason : String)
  | sourceNotDef (function : String)
  | unknownFormat (format : String)
  | settingsNotFound (path : String)
  | settingsUnreadable (reason : String)
  | settingsUnparsable (reason : String)
  | settingsInvalid (problem : SettingsProblem)
deriving DecidableEq, Repr

namespace Cause

def family : Cause → Family
  | .given f _ _ => f
  | .fileNotFound | .unsupportedFormat | .fileUnreadable _ | .unparsable _ | .refused _ =>
    .sourceLoad
  | .shapeMismatch _ _ _ => .shapeMismatch
  | .misplacedCall _ | .closure _ _ | .sourceUnavailable _ _ | .sourceNotDef _ => .expansion
  | .invalidLabel _ | .labelWithoutLoop | .unknownLabel _ => .labelResolution
  | .unknownFormat _ => .general
  | .settingsNotFound _ | .settingsUnreadable _ | .settingsUnparsable _ | .settingsInvalid _ =>
    .config

def code : Cause → String
  | .given _ c _ => c
  | .fileNotFound => "E_FILE_NOT_FOUND"
  | .unsupportedFormat => "E_UNSUPPORTED_FORMAT"
  | .fileUnreadable _ => "E_FILE_READ"
  | .unparsable _ => "E_SYNTAX"
  | .refused _ => "E_COMPILE"
  | .shapeMismatch _ _ _ => "E_SHAPE_MISMATCH"
  | .misplacedCall _ => "E_INVOCATION_POSITION"
  | .invalidLabel _ => "E_INVALID_LABEL"
  | .labelWithoutLoop => "E_LABEL_POSITION"
  | .unknownLabel _ => "E_UNKNOWN_LABEL"
  | .closure _ _ => "E_CLOSURE_UNSUPPORTED"
  | .sourceUnavailable _ _ | .sourceNotDef _ => "E_SOURCE_UNAVAILABLE"
  | .unknownFormat _ => "E_UNKNOWN_FORMAT"
  | .settingsNotFound _ => "E_CONFIG_NOT_FOUND"
  | .settingsUnreadable _ => "E_CONFIG_READ"
  | .settingsUnparsable _ => "E_CONFIG_PARSE"
  | .settingsInvalid _ => "E_CONFIG_INVALID"

def message : Cause → String
  | .given _ _ m => m
  | .fileNotFound => "file does not exist"
  | .unsupportedFormat => "supported formats are .py and .pyw"
  | .fileUnreadable r => r
  | .unparsable k => k.message
  | .refused r => r.text
  | .shapeMismatch n expected p =>
    n ++ "() expects " ++ " or ".intercalate expected ++ "; " ++ p.text
  | .misplacedCall n => n ++ "() must be used as a statement on its own"
  | .invalidLabel t => "label must be an identifier or identifier string, got: " ++ t
  | .labelWithoutLoop => "label() must be directly followed by a for/while loop"
  | .unknownLabel n => "no enclosing loop is labelled '" ++ n ++ "'"
  | .closure f vs =>
    f ++ " closes over " ++ ", ".intercalate vs ++
      "; closures cannot be re-bound, expand the module with install() instead"
  | .sourceUnavailable f r => "source for " ++ f ++ " is not available: " ++ r
  | .sourceNotDef f => "source for " ++ f ++ " is not a def statement"
  | .unknownFormat f => "unknown format: " ++ f ++ " (choose one of: text, json)"
  | .settingsNotFound p => "config file not found: " ++ p
  | .settingsUnreadable r => r
  | .settingsUnparsable r => r
  | .settingsInvalid p => p.text

end Cause

/-- A cause with the file it is in and the place it points at. -/
structure Diagnostic where
  cause : Cause
  file : Option String
  line : Option Int
  col : Option Int
deriving DecidableEq, Repr

namespace Diagnostic

/-- A diagnostic that points at a place. -/
def located (cause : Cause) (file : Option String) (p : Position) : Diagnostic :=
  ⟨cause, file, some p.line, some p.col⟩

/-- A diagnostic that points at no place. -/
def ofFile (cause : Cause) (file : Option String) : Diagnostic := ⟨cause, file, none, none⟩

/-- The text of an optional file name, with a stand-in for a missing or empty one. -/
def fileOr (standIn : String) : Option String → String
  | none => standIn
  | some f => if f.isEmpty then standIn else f

/-- The diagnostic on one line: `file:line:col: code: message`, without what is not known. -/
def text (d : Diagnostic) : String :=
  let place := match d.line, d.col with
    | none, _ => []
    | some l, none => [toString l]
    | some l, some c => [toString l, toString c]
  ":".intercalate (fileOr "<source>" d.file :: place) ++ ": " ++ d.cause.code ++ ": " ++
    d.cause.message

/-- What diagnostics are ordered by. -/
structure Key where
  file : String
  line : Int
  col : Int
  code : String
deriving DecidableEq, Repr

def key (d : Diagnostic) : Key :=
  ⟨fileOr "" d.file, d.line.getD 0, d.col.getD 0, d.cause.code⟩

/-- The lexicographic order of keys; texts compare by code points. -/
def Key.le (a b : Key) : Bool :=
  if a.file ≠ b.file then a.file < b.file
  else if a.line ≠ b.line then a.line < b.line
  else if a.col ≠ b.col then a.col < b.col
  else a.code ≤ b.code

/-- Diagnostics in order; equal keys stay as they stood. -/
def sort (ds : List Diagnostic) : List Diagnostic := ds.mergeSort fun a b => a.key.le b.key

/-- The exit status for diagnostics: 1 if a file could not be loaded or compiled, else 2. -/
def exitCode (ds : List Diagnostic) : Nat :=
  if ds.any fun d => d.cause.family == .sourceLoad then 1 else 2

end Diagnostic

end JumpMacros
