import JumpMacros.Decimal.Whole
import JumpMacros.Text.Base64
import JumpMacros.Yaml.Timestamp

/-!
# Problems of YAML documents

A problem has a kind, a place, and often the place where the construct that it is in began. Its
message shows each place with the line it is on and a caret below it; of two equal places only the
second is shown. A scalar without a value is a problem of another kind, which has no place.
-/

namespace JumpMacros.Yaml

open Text (quoted)

/-- A place in a document: the number of characters before it, and its line and column from 0. -/
structure Mark where
  index : Nat
  line : Nat
  col : Nat
deriving DecidableEq, Repr

/-- Whether a character ends a line. -/
def isBreak (c : Char) : Bool :=
  c == '\n' || c == '\r' || c == '\x85' || c == '\u2028' || c == '\u2029'

/-- The most characters of a line that are shown on one side of a caret. A longer side is cut to
five less, with dots in their place. -/
def Mark.reach : Nat := 37

/-- The part of a line on one side of a place, and whether it was cut. The characters come in
the order of their distance from the place. -/
def Mark.side (cs : List Char) : List Char × Bool :=
  let line := cs.takeWhile fun c => !isBreak c
  if line.length < reach then (line, false) else (line.take (reach - 5), true)

/-- A place, with the line it is on. -/
def Mark.show (doc : List Char) (m : Mark) : String :=
  let (before, cutBefore) := side (doc.take m.index).reverse
  let (after, cutAfter) := side (doc.drop m.index)
  let dots (b : Bool) : String := if b then " ... " else ""
  let lead := dots cutBefore
  "  in \"<unicode string>\", line " ++ toString (m.line + 1) ++ ", column " ++
    toString (m.col + 1) ++ ":\n    " ++ lead ++ String.ofList (before.reverse ++ after) ++
    dots cutAfter ++ "\n    " ++
    String.ofList (List.replicate (before.length + lead.length) ' ') ++ "^"

/-- The collections a document can leave open. -/
inductive Collection where
  | flowSequence
  | flowMapping
  | blockSequence
  | blockMapping
deriving DecidableEq, Repr

/-- What is wrong with a document. `found` is the name of a token. -/
inductive Fault where
  | entryNotAllowed
  | keyNotAllowed
  | valueNotAllowed
  | noToken (c : Char)
  | keyWithoutColon
  | directiveName (c : Char)
  | directiveNumber (wanted : String) (c : Char)
  | directiveBlank (c : Char)
  | lineEnd (construct : String) (c : Char)
  | repeatedVersion
  | wrongVersion
  | repeatedHandle (handle : String)
  | tagHandle (construct : String) (c : Char)
  | tagName (construct : String) (c : Char)
  | tagEscape (construct : String) (c : Char)
  | tagDecoding (construct : String) (reason : String)
  | tagClose (c : Char)
  | tagBlank (c : Char)
  | undefinedHandle (handle : String)
  | zeroIndent
  | scalarIndicator (c : Char)
  | anchorName (kind : String) (c : Char)
  | quoteNotClosed
  | separatorInQuotes
  | unknownEscape (c : Char)
  | shortEscape (digits : Nat) (c : Char)
  | missingNode (kind : String) (found : String)
  | notClosed (c : Collection) (found : String)
  | documentStart (found : String)
  | undefinedAlias (name : String)
  | repeatedAnchor (name : String)
  | secondDocument
  | unhashableKey
  | mergedItem (found : String)
  | merged (found : String)
  | unknownTag (name : String)
  | wrongNode (wanted found : String)
  | wrongPairs (construct found : String)
  | wrongPair (construct found : String)
  | wrongPairCount (construct : String) (count : Nat)
  | notBinary (f : Text.Base64.Failure)
deriving DecidableEq, Repr

namespace Fault

/-- What was being read when the problem was found. -/
def context : Fault → Option String
  | .entryNotAllowed | .keyNotAllowed | .valueNotAllowed | .documentStart _ | .undefinedAlias _
  | .repeatedVersion | .wrongVersion | .repeatedHandle _ | .unknownTag _ | .wrongNode _ _
  | .notBinary _ => none
  | .noToken _ => some "while scanning for the next token"
  | .keyWithoutColon => some "while scanning a simple key"
  | .directiveName _ | .directiveNumber _ _ | .directiveBlank _ => some "while scanning a directive"
  | .lineEnd construct _ | .tagHandle construct _ | .tagEscape construct _
  | .tagDecoding construct _ => some ("while scanning a " ++ construct)
  | .tagName construct _ => some ("while parsing a " ++ construct)
  | .tagClose _ => some "while parsing a tag"
  | .tagBlank _ => some "while scanning a tag"
  | .undefinedHandle _ => some "while parsing a node"
  | .zeroIndent | .scalarIndicator _ => some "while scanning a block scalar"
  | .anchorName kind _ => some ("while scanning an " ++ kind)
  | .quoteNotClosed | .separatorInQuotes => some "while scanning a quoted scalar"
  | .unknownEscape _ | .shortEscape _ _ => some "while scanning a double-quoted scalar"
  | .missingNode kind _ => some ("while parsing a " ++ kind ++ " node")
  | .notClosed .flowSequence _ => some "while parsing a flow sequence"
  | .notClosed .flowMapping _ => some "while parsing a flow mapping"
  | .notClosed .blockSequence _ => some "while parsing a block collection"
  | .notClosed .blockMapping _ => some "while parsing a block mapping"
  | .repeatedAnchor n => some ("found duplicate anchor " ++ quoted n ++ "; first occurrence")
  | .secondDocument => some "expected a single document in the stream"
  | .unhashableKey | .mergedItem _ | .merged _ => some "while constructing a mapping"
  | .wrongPairs construct _ | .wrongPair construct _ | .wrongPairCount construct _ =>
    some ("while constructing " ++ construct)

/-- A character in quotes. -/
def shown (c : Char) : String := quoted (String.singleton c)

/-- The problem itself. -/
def text : Fault → String
  | .entryNotAllowed => "sequence entries are not allowed here"
  | .keyNotAllowed => "mapping keys are not allowed here"
  | .valueNotAllowed => "mapping values are not allowed here"
  | .noToken c => "found character " ++ shown c ++ " that cannot start any token"
  | .keyWithoutColon => "could not find expected ':'"
  | .directiveName c | .anchorName _ c =>
    "expected alphabetic or numeric character, but found " ++ shown c
  | .directiveNumber wanted c => "expected " ++ wanted ++ ", but found " ++ shown c
  | .directiveBlank c | .tagBlank c => "expected ' ', but found " ++ shown c
  | .lineEnd _ c => "expected a comment or a line break, but found " ++ shown c
  | .repeatedVersion => "found duplicate YAML directive"
  | .wrongVersion => "found incompatible YAML document (version 1.* is required)"
  | .repeatedHandle h => "duplicate tag handle " ++ quoted h
  | .tagHandle _ c => "expected '!', but found " ++ shown c
  | .tagName _ c => "expected URI, but found " ++ shown c
  | .tagEscape _ c =>
    "expected URI escape sequence of 2 hexadecimal numbers, but found " ++ shown c
  | .tagDecoding _ reason => reason
  | .tagClose c => "expected '>', but found " ++ shown c
  | .undefinedHandle h => "found undefined tag handle " ++ quoted h
  | .zeroIndent => "expected indentation indicator in the range 1-9, but found 0"
  | .scalarIndicator c => "expected chomping or indentation indicators, but found " ++ shown c
  | .quoteNotClosed => "found unexpected end of stream"
  | .separatorInQuotes => "found unexpected document separator"
  | .unknownEscape c => "found unknown escape character " ++ shown c
  | .shortEscape n c =>
    "expected escape sequence of " ++ toString n ++ " hexadecimal numbers, but found " ++ shown c
  | .missingNode _ found => "expected the node content, but found " ++ quoted found
  | .notClosed .flowSequence found => "expected ',' or ']', but got " ++ quoted found
  | .notClosed .flowMapping found => "expected ',' or '\x7d', but got " ++ quoted found
  | .notClosed _ found => "expected <block end>, but found " ++ quoted found
  | .documentStart found => "expected '<document start>', but found " ++ quoted found
  | .undefinedAlias n => "found undefined alias " ++ quoted n
  | .repeatedAnchor _ => "second occurrence"
  | .secondDocument => "but found another document"
  | .unhashableKey => "found unhashable key"
  | .mergedItem found => "expected a mapping for merging, but found " ++ found
  | .merged found => "expected a mapping or list of mappings for merging, but found " ++ found
  | .unknownTag n => "could not determine a constructor for the tag " ++ quoted n
  | .wrongNode wanted found => "expected a " ++ wanted ++ " node, but found " ++ found
  | .wrongPairs _ found => "expected a sequence, but found " ++ found
  | .wrongPair _ found => "expected a mapping of length 1, but found " ++ found
  | .wrongPairCount _ n => "expected a single mapping item, but found " ++ toString n ++ " items"
  | .notBinary f => f.message

end Fault

/-- Why a scalar has no value. -/
inductive Unreadable where
  | notWhole (base : Nat) (text : String)
  | notReal (text : String)
  | tooManyDigits (count : Nat)
  | emptyNumber
  | notTruth (word : String)
  | notTime
  | mappedTime
  | time (p : TimeProblem)
deriving DecidableEq, Repr

namespace Unreadable

/-- The class of the error that is raised. -/
def className : Unreadable → String
  | .emptyNumber => "IndexError"
  | .notTruth _ => "KeyError"
  | .notTime => "AttributeError"
  | .mappedTime => "TypeError"
  | _ => "ValueError"

def message : Unreadable → String
  | .notWhole base s =>
    "invalid literal for int() with base " ++ toString base ++ ": " ++ quoted s
  | .notReal s => "could not convert string to float: " ++ quoted s
  | .tooManyDigits n => Decimal.tooLongToRead n
  | .emptyNumber => "string index out of range"
  | .notTruth w => quoted w
  | .notTime => "'NoneType' object has no attribute 'groupdict'"
  | .mappedTime => "expected string or bytes-like object, got 'list'"
  | .time p => p.message

end Unreadable

/-- A problem: the fault, where its construct began if that is known, and where it is. Or a
character that no document may hold, by its index. Or a scalar without a value. -/
inductive Problem where
  | fault (kind : Fault) (start : Option Mark) (place : Mark)
  | forbidden (c : Char) (index : Nat)
  | unreadable (u : Unreadable)
deriving DecidableEq, Repr

/-- The message of a problem in a document. -/
def Problem.message (doc : List Char) : Problem → String
  | .fault kind start place =>
    let began := match start with
      | some m => if m.line = place.line && m.col = place.col then [] else [m.show doc]
      | none => []
    "\n".intercalate (kind.context.toList ++ began ++ [kind.text, place.show doc])
  | .forbidden c index =>
    "unacceptable character #x" ++ Text.hexDigits 4 c.toNat ++
      ": special characters are not allowed\n  in \"<unicode string>\", position " ++
      toString index
  | .unreadable u => u.message

/-- Whether a document may hold a character. -/
def isAllowed (c : Char) : Bool :=
  let n := c.toNat
  n = 0x09 || n = 0x0a || n = 0x0d || (0x20 ≤ n && n ≤ 0x7e) || n = 0x85 ||
    (0xa0 ≤ n && n ≤ 0xd7ff) || (0xe000 ≤ n && n ≤ 0xfffd) || 0x10000 ≤ n

end JumpMacros.Yaml
