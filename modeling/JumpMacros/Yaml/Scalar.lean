import JumpMacros.Yaml.Problem
import JumpMacros.Yaml.Value

/-!
# Scalars

What a scalar is read as. A node has a tag, which says what it is made into; a plain scalar without
one has its tag by its spelling, by `Tag.ofPlain`, and a quoted one is a text. `Tag.scalar` makes a
value of a scalar. That can fail: a spelling can look like a number or a date and still be none.
-/

namespace JumpMacros.Yaml

open Decimal (Binary64)

/-- What nodes can be made into. -/
inductive Tag where
  | null
  | bool
  | int
  | float
  | timestamp
  | binary
  | text
  | sequence
  | mapping
  | set
  | orderedMap
  | pairs
  | merge
  | value
  | other (name : String)
deriving DecidableEq, Repr

namespace Tag

/-- The beginning of the names of the tags that every document knows. -/
def standardLead : String := "tag:yaml.org,2002:"

/-- The tags that every document knows, by the rest of their names. -/
def standard : List (String × Tag) :=
  [("null", .null), ("bool", .bool), ("int", .int), ("float", .float), ("timestamp", .timestamp),
    ("binary", .binary), ("str", .text), ("seq", .sequence), ("map", .mapping), ("set", .set),
    ("omap", .orderedMap), ("pairs", .pairs), ("merge", .merge), ("value", .value)]

/-- The tag with a name. -/
def ofName (name : String) : Tag :=
  ((standard.find? fun t => standardLead ++ t.1 == name).map (·.2)).getD (.other name)

/-- Whether a tag makes a scalar of a node. -/
def isScalar : Tag → Bool
  | .null | .bool | .int | .float | .timestamp | .binary | .text => true
  | _ => false

/-- The name of a tag. -/
def name : Tag → String
  | .other n => n
  | t => standardLead ++ ((standard.find? fun e => e.2 == t).map (·.1)).getD ""

end Tag

/-! ## Spellings -/

def trueWords : List String := ["yes", "Yes", "YES", "true", "True", "TRUE", "on", "On", "ON"]

def falseWords : List String := ["no", "No", "NO", "false", "False", "FALSE", "off", "Off", "OFF"]

def nullWords : List String := ["", "~", "null", "Null", "NULL"]

def isHex (c : Char) : Bool := c.isDigit || ('a' ≤ c && c ≤ 'f') || ('A' ≤ c && c ≤ 'F')

/-- Whether a part after a colon counts minutes or seconds: a number below sixty. -/
def isSixtieth : List Char → Bool
  | [a] => a.isDigit
  | [a, b] => '0' ≤ a && a ≤ '5' && b.isDigit
  | _ => false

/-- Whether all characters are digits or underscores, the first a digit. -/
def isGrouped : List Char → Bool
  | [] => false
  | c :: cs => c.isDigit && cs.all fun d => d.isDigit || d == '_'

/-- Splits at colons. -/
def colonParts (cs : List Char) : List (List Char) :=
  ((String.ofList cs).splitOn ":").map String.toList

/-- Splits the sign off a number. -/
def signed : List Char → Bool × List Char
  | '-' :: cs => (true, cs)
  | '+' :: cs => (false, cs)
  | cs => (false, cs)

/-- Whether a spelling without its sign is that of a whole number. -/
def isWhole (cs : List Char) : Bool :=
  let all (p : Char → Bool) (ds : List Char) : Bool :=
    !ds.isEmpty && ds.all fun c => p c || c == '_'
  match cs with
  | '0' :: 'b' :: ds => all (fun c => c == '0' || c == '1') ds
  | '0' :: 'x' :: ds => all isHex ds
  | ['0'] => true
  | '0' :: ds => all (fun c => '0' ≤ c && c ≤ '7') ds
  | _ =>
    match colonParts cs with
    | first :: more => isGrouped first && more.all isSixtieth
    | [] => false

/-- Whether a text is an exponent part, which has a sign, or empty. -/
def isExponent : List Char → Bool
  | [] => true
  | e :: sign :: ds =>
    (e == 'e' || e == 'E') && (sign == '-' || sign == '+') && !ds.isEmpty && ds.all Char.isDigit
  | _ => false

/-- Whether a spelling without its sign is that of a real number. One that starts with its point
has no sign. -/
def isReal (isSigned : Bool) (cs : List Char) : Bool :=
  let whole := cs.takeWhile (· != '.')
  match cs.drop whole.length with
  | [] => false
  | _ :: after =>
    let frac := after.takeWhile fun c => c.isDigit || c == '_'
    let exponent := after.drop frac.length
    if whole.isEmpty then
      [".inf", ".Inf", ".INF"].contains (String.ofList cs) ||
        (!isSigned && ([".nan", ".NaN", ".NAN"].contains (String.ofList cs) ||
          (isGrouped frac && isExponent exponent)))
    else if isGrouped whole then isExponent exponent
    else
      match colonParts whole with
      | first :: more => isGrouped first && more.all isSixtieth && exponent.isEmpty
      | [] => false

/-- The tag of a plain scalar. -/
def Tag.ofPlain (s : String) : Tag :=
  let (_, cs) := signed s.toList
  let isSigned := cs.length != s.length
  if nullWords.contains s then .null
  else if trueWords.contains s || falseWords.contains s then .bool
  else if s == "<<" then .merge
  else if s == "=" then .value
  else if isReal isSigned cs then .float
  else if isWhole cs then .int
  else if (Timestamp.Spelling.ofText? s).any Timestamp.Spelling.isPlain then .timestamp
  else .text

/-! ## Values -/

def isWhite (c : Char) : Bool := c == ' ' || (c.toNat ≥ 9 && c.toNat ≤ 13)

/-- A text without the blanks around it. -/
def trimmed (cs : List Char) : List Char :=
  ((cs.dropWhile isWhite).reverse.dropWhile isWhite).reverse

def digitValue (c : Char) : Nat :=
  if c.isDigit then c.toNat - 48 else if 'a' ≤ c then c.toNat - 87 else c.toNat - 55

/-- The number that digits denote in a base. -/
def wholeNumber (base : Nat) (cs : List Char) : Except Unreadable Int :=
  let (negative, ds) := signed (trimmed cs)
  if ds.isEmpty || !ds.all (fun c => isHex c && digitValue c < base) then
    .error (.notWhole base (String.ofList cs))
  else if base = 10 && ds.length > Decimal.maxDigits then .error (.tooManyDigits ds.length)
  else
    let n := Int.ofNat (ds.foldl (fun n c => n * base + digitValue c) 0)
    .ok (if negative then -n else n)

/-- A spelling without underscores, and its sign apart. -/
def stripped (s : String) : Except Unreadable (Bool × List Char) :=
  match s.toList.filter (· != '_') with
  | [] => .error .emptyNumber
  | cs => .ok (signed cs)

/-- The value of a whole number. -/
def readWhole (s : String) : Except Unreadable Int := do
  let (negative, cs) ← stripped s
  let n ← match cs with
    | ['0'] => pure 0
    | '0' :: 'b' :: ds => wholeNumber 2 ds
    | '0' :: 'x' :: ds => wholeNumber 16 ds
    | '0' :: _ => wholeNumber 8 cs
    | [] => throw .emptyNumber
    | _ =>
      if cs.contains ':' then
        (colonParts cs).foldlM (fun n p => do return n * 60 + (← wholeNumber 10 p)) 0
      else wholeNumber 10 cs
  return if negative then -n else n

/-- The value of digits with a point and an exponent. -/
def realNumber (cs : List Char) : Except Unreadable Binary64 :=
  let t := trimmed cs
  let whole := t.takeWhile Char.isDigit
  let rest := t.drop whole.length
  let (frac, rest) := match rest with
    | '.' :: after => (after.takeWhile Char.isDigit, after.dropWhile Char.isDigit)
    | rest => ([], rest)
  let exponent : Option Int := match rest with
    | [] => some 0
    | 'e' :: ds =>
      let (negative, ds) := signed ds
      if ds.isEmpty || !ds.all Char.isDigit then none
      else
        let n := Int.ofNat (ds.foldl (fun n c => n * 10 + digitValue c) 0)
        some (if negative then -n else n)
    | _ => none
  match exponent with
  | some k =>
    if whole.isEmpty && frac.isEmpty then .error (.notReal (String.ofList cs))
    else .ok (Binary64.ofDecimal ((whole ++ frac).foldl (fun n c => n * 10 + digitValue c) 0)
      (k - Int.ofNat frac.length))
  | none => .error (.notReal (String.ofList cs))

/-- The sum of parts that count sixtieths, the last part first. -/
def sixtieths (base : Nat) (sum : Binary64) : List Binary64 → Binary64
  | [] => sum
  | x :: xs => sixtieths (base * 60) (sum.add (x.mul (Binary64.ofFraction base 1))) xs

/-- The value of a real number. -/
def readReal (s : String) : Except Unreadable Yaml := do
  let (negative, cs) ← stripped s
  let cs := cs.map Char.toLower
  if cs == ".inf".toList then return .float negative .infinite
  if cs == ".nan".toList then return .notANumber
  if cs.contains ':' then
    let parts ← (colonParts cs).mapM realNumber
    return .float negative (sixtieths 1 .zero parts.reverse)
  return .float negative (← realNumber cs)

/-- The value of a truth word; its case does not matter. -/
def readTruth (s : String) : Except Unreadable Bool :=
  let w := s.map Char.toLower
  if trueWords.contains w then .ok true
  else if falseWords.contains w then .ok false
  else .error (.notTruth w)

/-- The value of a timestamp. -/
def readTime (s : String) : Except Unreadable Timestamp :=
  match Timestamp.Spelling.ofText? s with
  | none => .error .notTime
  | some t =>
    match Timestamp.ofSpelling t with
    | .ok t => .ok t
    | .error p => .error (.time p)

/-- The value of a scalar with a tag; tags that are not for scalars give its text. A scalar that is
no base 64 has no bytes. -/
def Tag.scalar (t : Tag) (s : String) : Except Unreadable Yaml :=
  match t with
  | .null => .ok .null
  | .bool => (readTruth s).map .bool
  | .int => (readWhole s).map .int
  | .float => readReal s
  | .timestamp => (readTime s).map .time
  | .binary => .ok (.bytes ((Text.Base64.decode s.toList).toOption.getD []))
  | _ => .ok (.text s)

end JumpMacros.Yaml
