import JumpMacros.Tree.Literal

/-!
# Refused trees

A tree that a source text can be read into may still be refused by the compiler of the language.
Each reason has one wording, `Refusal.text`.
-/

namespace JumpMacros

/-- What a name is declared as. -/
inductive Declaration where
  | global
  | outer
deriving DecidableEq, Repr

def Declaration.text : Declaration → String
  | .global => "global"
  | .outer => "nonlocal"

/-- The kinds of comprehensions. -/
inductive ComprehensionForm where
  | list
  | set
  | dict
  | generator
deriving DecidableEq, Repr

def ComprehensionKind.form : ComprehensionKind → ComprehensionForm
  | .list => .list
  | .set => .set
  | .generator => .generator

def ComprehensionForm.text : ComprehensionForm → String
  | .list => "list comprehension"
  | .set => "set comprehension"
  | .dict => "dict comprehension"
  | .generator => "generator expression"

/-- Why the compiler refuses a tree. -/
inductive Refusal where
  -- jumps and blocks
  | breakOutsideLoop
  | continueOutsideLoop
  | returnOutsideFunction
  | jumpFromStarHandler
  | tooManyBlocks
  | bareHandlerNotLast
  -- functions that are suspended
  | yieldOutsideFunction
  | yieldFromInAsync
  | yieldInComprehension (form : ComprehensionForm)
  | awaitOutsideFunction
  | awaitOutsideAsync
  | asyncOutsideAsync (statement : String)
  | asyncComprehension
  | valueInAsyncGenerator
  -- statements about the language
  | unknownFeature (name : String)
  | braces
  | lateFeature
  -- names
  | duplicateParam (name : String)
  | declaredParam (name : String) (d : Declaration)
  | declaredAfterUse (name : String) (d : Declaration)
  | declaredAfterAssignment (name : String) (d : Declaration)
  | declaredNoted (name : String) (d : Declaration)
  | declaredTwice (name : String)
  | outerInModule
  | outerUnbound (name : String)
  | starImport
  | debugAssigned
  | debugDeleted
  | repeatedKeyword (name : String)
  -- assignments inside of expressions
  | namedInClass
  | namedIteration (name : String)
  | namedInnerIteration (name : String)
  | namedIterable
  | inNote (what : String)
  -- stars
  | starredTarget
  | starredExpression
  | starredTwice
  | starredLate
  -- patterns
  | wildcardNotLast
  | captureNotLast (name : String)
  | captureTwice (name : String)
  | differentCaptures
  | starsInPattern
  | patternValue
  | patternKey
  | duplicateKey (key : String)
  | repeatedAttribute (name : String)
deriving DecidableEq, Repr

namespace Refusal

/-- A name in quotes, as a value is shown. -/
def quoted (name : String) : String := Text.quotedPoints (name.toList.map Char.toNat)

def text : Refusal → String
  | .breakOutsideLoop => "'break' outside loop"
  | .continueOutsideLoop => "'continue' not properly in loop"
  | .returnOutsideFunction => "'return' outside function"
  | .jumpFromStarHandler =>
    "'break', 'continue' and 'return' cannot appear in an except* block"
  | .tooManyBlocks => "too many statically nested blocks"
  | .bareHandlerNotLast => "default 'except:' must be last"
  | .yieldOutsideFunction => "'yield' outside function"
  | .yieldFromInAsync => "'yield from' inside async function"
  | .yieldInComprehension f => "'yield' inside " ++ f.text
  | .awaitOutsideFunction => "'await' outside function"
  | .awaitOutsideAsync => "'await' outside async function"
  | .asyncOutsideAsync s => "'async " ++ s ++ "' outside async function"
  | .asyncComprehension => "asynchronous comprehension outside of an asynchronous function"
  | .valueInAsyncGenerator => "'return' with value in async generator"
  | .unknownFeature n =>
    "future feature " ++ String.ofList (n.toList.take 100) ++ " is not defined"
  | .braces => "not a chance"
  | .lateFeature => "from __future__ imports must occur at the beginning of the file"
  | .duplicateParam n => "duplicate argument '" ++ n ++ "' in function definition"
  | .declaredParam n d => "name '" ++ n ++ "' is parameter and " ++ d.text
  | .declaredAfterUse n d => "name '" ++ n ++ "' is used prior to " ++ d.text ++ " declaration"
  | .declaredAfterAssignment n d =>
    "name '" ++ n ++ "' is assigned to before " ++ d.text ++ " declaration"
  | .declaredNoted n d => "annotated name '" ++ n ++ "' can't be " ++ d.text
  | .declaredTwice n => "name '" ++ n ++ "' is nonlocal and global"
  | .outerInModule => "nonlocal declaration not allowed at module level"
  | .outerUnbound n => "no binding for nonlocal '" ++ n ++ "' found"
  | .starImport => "import * only allowed at module level"
  | .debugAssigned => "cannot assign to __debug__"
  | .debugDeleted => "cannot delete __debug__"
  | .repeatedKeyword n => "keyword argument repeated: " ++ n
  | .namedInClass =>
    "assignment expression within a comprehension cannot be used in a class body"
  | .namedIteration n =>
    "assignment expression cannot rebind comprehension iteration variable '" ++ n ++ "'"
  | .namedInnerIteration n =>
    "comprehension inner loop cannot rebind assignment expression target '" ++ n ++ "'"
  | .namedIterable =>
    "assignment expression cannot be used in a comprehension iterable expression"
  | .inNote what => "'" ++ what ++ "' can not be used within an annotation"
  | .starredTarget => "starred assignment target must be in a list or tuple"
  | .starredExpression => "can't use starred expression here"
  | .starredTwice => "multiple starred expressions in assignment"
  | .starredLate => "too many expressions in star-unpacking assignment"
  | .wildcardNotLast => "wildcard makes remaining patterns unreachable"
  | .captureNotLast n => "name capture " ++ quoted n ++ " makes remaining patterns unreachable"
  | .captureTwice n => "multiple assignments to name " ++ quoted n ++ " in pattern"
  | .differentCaptures => "alternative patterns bind different names"
  | .starsInPattern => "multiple starred names in sequence pattern"
  | .patternValue => "patterns may only match literals and attribute lookups"
  | .patternKey => "mapping pattern keys may only match literals and attribute lookups"
  | .duplicateKey k => "mapping pattern checks duplicate key (" ++ k ++ ")"
  | .repeatedAttribute n => "attribute name repeated in class pattern: " ++ n

end Refusal

/-- What is refused: why, and where it is if that is known. -/
structure Refused where
  why : Refusal
  place : Option Position
deriving DecidableEq, Repr

end JumpMacros
