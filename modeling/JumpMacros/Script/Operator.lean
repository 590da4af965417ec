import JumpMacros.Files.Source
import JumpMacros.Script.Value

/-!
# Operators

What operators and the known functions do to values. Whole numbers divide to the floor, and the
remainder has the sign of the divisor; truth values count as 0 and 1.
-/

namespace JumpMacros.Script

/-- The whole number a value stands for. -/
def Value.int? : Value → Option Int
  | .int n => some n
  | .bool b => some (if b then 1 else 0)
  | _ => none

/-- The number of items of a range. -/
def rangeLength (start stop step : Int) : Nat :=
  if step > 0 then ((stop - start + step - 1).fdiv step).toNat
  else if step < 0 then ((start - stop - step - 1).fdiv (-step)).toNat
  else 0

/-- Whether a value counts as true. -/
def Value.isTrue (m : Machine) : Value → Bool
  | .null => false
  | .bool b => b
  | .int n => n != 0
  | .float _ x => x != .finite 0 0
  | .str s => !s.isEmpty
  | .tuple vs => !vs.isEmpty
  | .list ref => !(m.items ref).isEmpty
  | .dict es => !es.isEmpty
  | .range a b s => rangeLength a b s != 0
  | _ => true

/-- Whether two values are equal. The first argument bounds how deep they nest. -/
def Value.equal (m : Machine) : Nat → Value → Value → Bool
  | 0, _, _ => false
  | fuel + 1, a, b =>
    let all (xs ys : List Value) : Bool :=
      xs.length == ys.length && (xs.zip ys).all fun (x, y) => Value.equal m fuel x y
    match a, b with
    | .null, .null => true
    | .str s, .str t => s == t
    | .float n x, .float k y => x == y && (n == k || x == .finite 0 0)
    | .literal c, .literal d => c == d
    | .tuple xs, .tuple ys => all xs ys
    | .list i, .list j => i == j || all (m.items i) (m.items j)
    | .dict xs, .dict ys =>
      xs.length == ys.length && xs.all fun (k, v) =>
        ys.any fun (k', v') => Value.equal m fuel k k' && Value.equal m fuel v v'
    | .function i, .function j | .klass i, .klass j => i == j
    | .marker k, .marker l => k == l
    | .builtin s, .builtin t | .type s, .type t | .module s, .module t
    | .external s, .external t => s == t
    | .expand, .expand => true
    | .range a b s, .range a' b' s' => a == a' && b == b' && s == s'
    | a, b =>
      match a.int?, b.int? with
      | some x, some y => x == y
      | _, _ => false

/-- Whether a value comes before another one, or else two values in them that have no order. -/
def Value.less (m : Machine) : Nat → Value → Value → Except (Value × Value) Bool
  | 0, a, b => .error (a, b)
  | fuel + 1, a, b =>
    let rec all : List Value → List Value → Except (Value × Value) Bool
      | _, [] => .ok false
      | [], _ :: _ => .ok true
      | x :: xs, y :: ys =>
        if Value.equal m fuel x y then all xs ys else Value.less m fuel x y
    match a, b with
    | .str s, .str t => .ok (s < t)
    | .tuple xs, .tuple ys => all xs ys
    | .list i, .list j => all (m.items i) (m.items j)
    | a, b =>
      match a.int?, b.int? with
      | some x, some y => .ok (x < y)
      | _, _ => .error (a, b)

def equal (a b : Value) : Exec Bool := return a.equal (← get) showDepth b

/-- Whether two values are the same object. -/
def isSame (a b : Value) : Exec Bool := do
  match a, b with
  | .bool x, .bool y => return x == y
  | .bool _, _ | _, .bool _ => return false
  | .list i, .list j => return i == j
  | _, _ => equal a b

def BinaryOp.symbol : BinaryOp → String
  | .add => "+"
  | .sub => "-"
  | .mul => "*"
  | .matMul => "@"
  | .div => "/"
  | .mod => "%"
  | .floorDiv => "//"
  | .pow => "** or pow()"
  | .shiftLeft => "<<"
  | .shiftRight => ">>"
  | .bitOr => "|"
  | .bitXor => "^"
  | .bitAnd => "&"

/-- An operator between whole numbers. -/
def intOperator (op : BinaryOp) (x y : Int) : Exec Value := do
  match op with
  | .add => return .int (x + y)
  | .sub => return .int (x - y)
  | .mul => return .int (x * y)
  | .floorDiv => if y = 0 then raise .divisionByZero else return .int (x.fdiv y)
  | .mod =>
    if y = 0 then raise (.host "ZeroDivisionError" "integer modulo by zero")
    else return .int (x.fmod y)
  | .pow => if y < 0 then unsupported "power" else return .int (Int.pow x y.toNat)
  | _ => unsupported (BinaryOp.symbol op)

def repeated {α : Type} (n : Int) (xs : List α) : List α :=
  (List.replicate n.toNat xs).flatten

/-- A text with its marks replaced by values: `%s` shows a value, `%r` shows it with quotes, `%d`
takes a whole number, and `%%` is a percent sign. Gives what is left of the values. -/
def formatted : List Char → List Value → Exec (List Char × List Value)
  | '%' :: '%' :: cs, vs => do
    let (rest, left) ← formatted cs vs
    return ('%' :: rest, left)
  | '%' :: c :: cs, vs => do
    match vs with
    | [] => typeError "not enough arguments for format string"
    | v :: vs =>
      let shownValue ← match c with
        | 's' => textOf v
        | 'r' => shown v
        | 'd' | 'i' =>
          match v.int? with
          | some n => shown (.int n)
          | none => typeError ("%" ++ String.singleton c ++ " format: a real number is required, not " ++
              v.typeName)
        | _ => unsupported "format"
      let (rest, left) ← formatted cs vs
      return (shownValue.toList ++ rest, left)
  | '%' :: [], _ => raise (.valueError "incomplete format")
  | c :: cs, vs => do
    let (rest, left) ← formatted cs vs
    return (c :: rest, left)
  | [], vs => return ([], vs)

/-- Fills a text with a value, or with the items of a tuple. -/
def filled (text : String) (v : Value) : Exec Value := do
  let (values, mayStay) : List Value × Bool := match v with
    | .tuple vs => (vs, false)
    | .list _ | .dict _ | .range _ _ _ => ([v], true)
    | v => ([v], false)
  let (cs, left) ← formatted text.toList values
  if left.isEmpty || mayStay then return .str (String.ofList cs)
  else typeError "not all arguments converted during string formatting"

/-- What is said when an operator does not fit its operands. -/
def operatorProblem (op : BinaryOp) (sign : String) (a b : Value) : String :=
  let isSequence : Value → Bool
    | .str _ | .tuple _ | .list _ => true
    | _ => false
  if op == .add && isSequence a then
    "can only concatenate " ++ a.typeName ++ " (not \"" ++ b.typeName ++ "\") to " ++ a.typeName
  else if op == .mul && (isSequence a || isSequence b) then
    "can\x27t multiply sequence by non-int of type '" ++
      (if isSequence a then b.typeName else a.typeName) ++ "'"
  else
    "unsupported operand type(s) for " ++ sign ++ ": '" ++ a.typeName ++ "' and '" ++
      b.typeName ++ "'"

/-- An operator between values. -/
def binary (op : BinaryOp) (sign : String) (a b : Value) : Exec Value := do
  let m ← get
  match op, a, b with
  | .add, .str s, .str t => return .str (s ++ t)
  | .add, .tuple xs, .tuple ys => return .tuple (xs ++ ys)
  | .add, .list i, .list j => newList (m.items i ++ m.items j)
  | .mod, .str s, v => filled s v
  | op, a, b =>
    match op, a, a.int?, b, b.int? with
    | op, _, some x, _, some y => intOperator op x y
    | .mul, .str s, _, _, some n | .mul, _, some n, .str s, _ =>
      return .str (String.ofList (repeated n s.toList))
    | .mul, .tuple xs, _, _, some n | .mul, _, some n, .tuple xs, _ => return .tuple (repeated n xs)
    | .mul, .list i, _, _, some n | .mul, _, some n, .list i, _ => newList (repeated n (m.items i))
    | op, a, _, b, _ => typeError (operatorProblem op sign a b)

def UnaryOp.symbol : UnaryOp → String
  | .minus => "-"
  | .plus => "+"
  | .invert => "~"
  | .not => "not"

def unary (op : UnaryOp) (a : Value) : Exec Value := do
  match op, a with
  | .not, a => return .bool (!a.isTrue (← get))
  | .minus, .float n x => return .float (!n) x
  | .plus, .float n x => return .float n x
  | op, a =>
    match op, a.int? with
    | .minus, some n => return .int (-n)
    | .plus, some n => return .int n
    | .invert, some n => return .int (-n - 1)
    | op, _ =>
      typeError ("bad operand type for unary " ++ UnaryOp.symbol op ++ ": '" ++ a.typeName ++ "'")

/-! ## Items -/

/-- Whether a value can be run through. -/
def Value.isIterable : Value → Bool
  | .list _ | .tuple _ | .str _ | .dict _ | .range _ _ _ => true
  | _ => false

/-- The item at a position of a value that can be run through; `none` past its end. -/
def itemAt (v : Value) (i : Nat) : Exec (Option Value) := do
  match v with
  | .list ref => return ((← get).items ref)[i]?
  | .tuple vs => return vs[i]?
  | .str s => return s.toList[i]?.map fun c => .str (String.singleton c)
  | .dict es => return es[i]?.map (·.1)
  | .range a b s =>
    return if i < rangeLength a b s then some (.int (a + Int.ofNat i * s)) else none
  | v => typeError ("'" ++ v.typeName ++ "' object is not iterable")

/-- All items of a value that has items. -/
def Value.items? (m : Machine) : Value → Option (List Value)
  | .list ref => some (m.items ref)
  | .tuple vs => some vs
  | .str s => some (s.toList.map fun c => .str (String.singleton c))
  | .dict es => some (es.map (·.1))
  | .range a b s => some ((List.range (rangeLength a b s)).map fun i => .int (a + Int.ofNat i * s))
  | _ => none

def itemsOf (v : Value) : Exec (List Value) := do
  match v.items? (← get) with
  | some vs => return vs
  | none => typeError ("'" ++ v.typeName ++ "' object is not iterable")

/-- The texts among some values. -/
def textsAmong (vs : List Value) : List String :=
  vs.filterMap fun
    | .str s => some s
    | _ => none

def lengthOf (v : Value) : Exec Value := do
  match v with
  | .list _ | .tuple _ | .str _ | .dict _ => return .int (← itemsOf v).length
  | .range a b s => return .int (rangeLength a b s)
  | v => typeError ("object of type '" ++ v.typeName ++ "' has no len()")

/-- The position that an index means; negative ones count from the end. -/
def position? (length : Nat) (i : Int) : Option Nat :=
  let j := if i < 0 then i + Int.ofNat length else i
  if 0 ≤ j && j < Int.ofNat length then some j.toNat else none

def indexError {α : Type} (what : String) : Exec α :=
  raise (.host "IndexError" (what ++ " index out of range"))

/-- The item under an index or a key. -/
def subscript (v i : Value) : Exec Value := do
  match v, i with
  | .dict es, k =>
    for (k', w) in es do
      if ← equal k k' then return w
    raise (.host "KeyError" (← shown k))
  | .list _, i | .tuple _, i | .str _, i | .range _ _ _, i =>
    let what := match v with
      | .str _ => "string"
      | .range _ _ _ => "range object"
      | v => v.typeName
    match i.int? with
    | none =>
      match v with
      | .str _ => typeError ("string indices must be integers, not '" ++ i.typeName ++ "'")
      | v => typeError (v.typeName ++ " indices must be integers or slices, not " ++ i.typeName)
    | some n =>
      let items ← itemsOf v
      match position? items.length n with
      | some j => return items.getD j .null
      | none => indexError what
  | v, _ => typeError ("'" ++ v.typeName ++ "' object is not subscriptable")

def contains (v x : Value) : Exec Bool := do
  match v, x with
  | .str s, .str t => return occursIn t.toList s.toList
  | .str _, x =>
    typeError ("'in <string>' requires string as left operand, not " ++ x.typeName)
  | v, x =>
    if !v.isIterable then typeError ("argument of type '" ++ v.typeName ++ "' is not iterable")
    for y in ← itemsOf v do
      if ← equal x y then return true
    return false

def CompareOp.symbol : CompareOp → String
  | .lt => "<"
  | .ltEq => "<="
  | .gt => ">"
  | .gtEq => ">="
  | _ => ""

/-- A comparison of two values. -/
def compared (op : CompareOp) (a b : Value) : Exec Bool := do
  let m ← get
  let order (isSwapped : Bool) : Exec Bool := do
    match if isSwapped then b.less m showDepth a else a.less m showDepth b with
    | .ok r => return r
    | .error (x, y) =>
      let (x, y) := if isSwapped then (y, x) else (x, y)
      typeError ("'" ++ CompareOp.symbol op ++ "' not supported between instances of '" ++
        x.typeName ++ "' and '" ++ y.typeName ++ "'")
  match op with
  | .eq => equal a b
  | .notEq => return !(← equal a b)
  | .lt => order false
  | .gt => order true
  | .ltEq => return (← order false) || (← equal a b)
  | .gtEq => return (← order true) || (← equal a b)
  | .is => isSame a b
  | .isNot => return !(← isSame a b)
  | .isIn => contains b a
  | .notIn => return !(← contains b a)

/-! ## Known functions and types -/

/-- Prints values on a line. -/
def printValues (args : List Value) (kws : List (String × Value)) : Exec Value := do
  let texts ← args.mapM textOf
  let option (name standard : String) : Exec String := do
    match kws.lookup name with
    | none | some .null => return standard
    | some v => textOf v
  let line := (← option "sep" " ").intercalate texts ++ (← option "end" "\n")
  modify fun m => { m with output := line :: m.output }
  return .null

/-- The status that a value given to `exit` stands for. A value that is no number is printed. -/
def exitWith (args : List Value) : Exec Value := do
  match args with
  | [] | [.null] => throw (.exits 0)
  | v :: _ =>
    match v.int? with
    | some n => throw (.exits n)
    | none => throw (.exits 1)

/-- Changes the files. -/
def changeFiles (r : Except Raised FileTree) : Exec Value := do
  let files ← liftExcept r
  modify fun m => { m with files := files }
  return .null

/-- Makes a link. -/
def linkFile (files : FileTree) (target path : String) : Except Raised FileTree :=
  (files.add (.ofString path) (.link (.ofLink target))).mapError fun e =>
    .host e.className (e.reason ++ ": " ++ Text.quoted target ++ " -> " ++ Text.quoted path)

/-- Calls a function of the package that is no macro. -/
def callExternal (name : String) (args : List Value) : Exec Value := do
  match name, args with
  | "load_source", [.str path] => return .str (← liftExcept (loadSource (← get).files path))
  | "write_source", [.str path, .str text] =>
    changeFiles ((writeSource (← get).files path text).mapError Raised.file)
  | name, _ => unsupported name

/-- Calls a known function. -/
def callBuiltin (name : String) (args : List Value) (kws : List (String × Value)) : Exec Value := do
  match name, args with
  | "print", args => printValues args kws
  | "exit", args => exitWith args
  | "symlink", [.str target, .str path] => changeFiles (linkFile (← get).files target path)
  | "len", [v] => lengthOf v
  | "repr", [v] => return .str (← shown v)
  | "abs", [v] =>
    match v.int? with
    | some n => return .int n.natAbs
    | none => typeError ("bad operand type for abs(): '" ++ v.typeName ++ "'")
  | name, _ => unsupported name

/-- A whole number in decimal digits, with blanks around it and a sign; and how many digits it
has. -/
def parseInt? (s : String) : Option (Int × Nat) :=
  let isSpace (c : Char) : Bool := c == ' ' || (c.toNat ≥ 9 && c.toNat ≤ 13)
  let trimmed := ((s.toList.dropWhile isSpace).reverse.dropWhile isSpace).reverse
  let (negative, digits) : Bool × List Char := match trimmed with
    | '-' :: ds => (true, ds)
    | '+' :: ds => (false, ds)
    | ds => (false, ds)
  match Number.digitTail Char.isDigit "decimal" ('0' :: digits) with
  | .ok (ds, []) =>
    if (digits.head?.map Char.isDigit).getD false then
      let n := Int.ofNat (Number.digitsValue 10 ds)
      some (if negative then -n else n, ds.length - 1)
    else none
  | _ => none

/-- Calls a known type. -/
def callType (name : String) (args : List Value) : Exec Value := do
  match name, args with
  | "int", [] => return .int 0
  | "int", [.str s] =>
    match parseInt? s with
    | some (n, digits) =>
      if digits > Decimal.maxDigits then raise (.valueError (Decimal.tooLongToRead digits))
      return .int n
    | none =>
      raise (.valueError ("invalid literal for int() with base 10: " ++ Text.quoted s))
  | "int", [v] =>
    match v.int? with
    | some n => return .int n
    | none => typeError ("int() argument must be a string, a bytes-like object or a real number, " ++
        "not '" ++ v.typeName ++ "'")
  | "str", [] => return .str ""
  | "str", [v] => return .str (← textOf v)
  | "bool", [] => return .bool false
  | "bool", [v] => return .bool (v.isTrue (← get))
  | "list", [] => newList []
  | "list", [v] => newList (← itemsOf v)
  | "tuple", [] => return .tuple []
  | "tuple", [v] => return .tuple (← itemsOf v)
  | "range", args =>
    match args.mapM Value.int? with
    | some [b] => return .range 0 b 1
    | some [a, b] => return .range a b 1
    | some [a, b, s] =>
      if s = 0 then raise (.valueError "range() arg 3 must not be zero") else return .range a b s
    | _ => typeError "range expected integers"
  | "staticmethod", [v] | "classmethod", [v] | "property", [v] => return .wrapped name v
  | name, _ => unsupported name

end JumpMacros.Script
