import JumpMacros.Tree.Expr

/-!
# Folded expressions

An expression that is built from literals alone is folded into its value before code is generated
for it. `Expr.folded?` gives that value. An operation that fails (a division by zero, operands of
the wrong type, an index out of range) is left to run time, and so is one whose result would be
large: the limits are on the bits of a whole number and on the items of a sequence.

Of a text only its length is kept, since no operation looks at its characters.
-/

namespace JumpMacros

open Decimal (Binary64)

/-- The value of an expression that is built from literals. The truth values are whole numbers
here, and `unit` stands for the values that have no operations. -/
inductive Folded where
  | unit (truth : Bool)
  | int (n : Int)
  | real (x : Float)
  | complex (re im : Float)
  | text (length : Nat)
  | bytes (value : List Nat)
  | tuple (items : List Folded)
deriving Inhabited

namespace Folded

/-! ## Limits -/

/-- The most bits of a whole number that an operation may give. -/
def maxBits : Nat := 128

/-- The most items of a repeated tuple. -/
def maxItems : Nat := 256

/-- The most items of a repeated tuple with those of the tuples in it. -/
def maxNested : Nat := 1024

/-- The most characters of a repeated text. -/
def maxLength : Nat := 4096

/-- The number of bits of a whole number. -/
def bits (n : Int) : Nat := if n = 0 then 0 else n.natAbs.log2 + 1

mutual

/-- The number of items of a tuple with those of the tuples in it. -/
def nested : Folded → Nat
  | .tuple xs => xs.length + nestedAll xs
  | _ => 0

def nestedAll : List Folded → Nat
  | [] => 0
  | x :: xs => nested x + nestedAll xs

end

/-! ## Real and complex numbers -/

/-- A finite value as a real number, if it is not too large. -/
def ofBinary? : Binary64 → Option Float
  | .infinite => none
  | .finite m q => some ((Float.ofNat m).scaleB q)

/-- The value of a real literal. -/
def ofLiteral (x : Binary64) : Float := (ofBinary? x).getD (1.0 / 0.0)

/-- The real number nearest to a quotient, if it is not too large. -/
def quotient? (n d : Int) : Option Float := do
  let x ← ofBinary? (Binary64.ofFraction n.natAbs d.natAbs)
  return if (n < 0) != (d < 0) then -x else x

/-- A number as a real number. -/
def real? : Folded → Option Float
  | .int n => quotient? n 1
  | .real x => some x
  | _ => none

/-- A number as a complex one. -/
def complex? : Folded → Option (Float × Float)
  | .complex a b => some (a, b)
  | x => x.real?.map (·, 0.0)

/-- The significand and the exponent of the magnitude of a finite real number. -/
def parts (x : Float) : Nat × Int :=
  let b := x.toBits.toNat
  let e := b / Nat.pow 2 52 % Nat.pow 2 11
  let m := b % Nat.pow 2 52
  if e = 0 then (m, Binary64.minExponent) else (m + Nat.pow 2 52, Int.ofNat e - 1075)

/-- The remainder of a division toward zero. -/
def remainder (x y : Float) : Float :=
  if x.isNaN || y.isNaN || x.isInf then 0.0 / 0.0
  else if y.isInf then x
  else
    let (m, p) := parts x
    let (n, q) := parts y
    let e := min p q
    let r := m * Nat.pow 2 (p - e).toNat % (n * Nat.pow 2 (q - e).toNat)
    let z := (Float.ofNat r).scaleB e
    if x < 0 then -z else z

/-- The remainder of a division to the floor. -/
def floorMod (x y : Float) : Float :=
  let r := remainder x y
  if r != 0 && (y < 0) != (r < 0) then r + y else r

/-- The quotient of a division to the floor. -/
def floorDiv (x y : Float) : Float :=
  let r := remainder x y
  let d := (x - r) / y
  let d := if r != 0 && (y < 0) != (r < 0) then d - 1.0 else d
  let f := d.floor
  if d - f > 0.5 then f + 1.0 else f

def times (a b : Float × Float) : Float × Float :=
  (a.1 * b.1 - a.2 * b.2, a.1 * b.2 + a.2 * b.1)

/-- The quotient of complex numbers, scaled by the larger part of the divisor. -/
def over? (a b : Float × Float) : Option (Float × Float) :=
  if b.1 == 0 && b.2 == 0 then none
  else if b.1.abs ≥ b.2.abs then
    let r := b.2 / b.1
    let d := b.1 + b.2 * r
    some ((a.1 + a.2 * r) / d, (a.2 - a.1 * r) / d)
  else
    let r := b.1 / b.2
    let d := b.1 * r + b.2
    some ((a.1 * r + a.2) / d, (a.2 * r - a.1) / d)

/-- A complex power with a natural exponent. -/
def timesNat (a : Float × Float) : Nat → Float × Float
  | 0 => (1.0, 0.0)
  | n + 1 => times (timesNat a n) a

/-- The length of a complex number, scaled by its larger part. -/
def length (a : Float × Float) : Float :=
  let x := max a.1.abs a.2.abs
  let y := min a.1.abs a.2.abs
  if x == 0 then 0.0 else x * (1.0 + y / x * (y / x)).sqrt

/-- A complex power by angle and length. -/
def polarPower (a b : Float × Float) : Float × Float :=
  let size := length a
  let angle := Float.atan2 a.2 a.1
  let stretch := size.pow b.1
  let turn := angle * b.1
  let (stretch, turn) :=
    if b.2 == 0 then (stretch, turn)
    else (stretch * (-angle * b.2).exp, turn + b.2 * size.log)
  (stretch * turn.cos, stretch * turn.sin)

/-- A complex power; zero has no negative or complex power, and a result can be too large. -/
def complexPower? (a b : Float × Float) : Option Folded := do
  let whole := b.2 == 0 && b.1 == b.1.floor && b.1.abs ≤ 100
  let n := b.1.abs.toUInt64.toNat
  let p ←
    if whole then if b.1 < 0 then over? (1.0, 0.0) (timesNat a n) else some (timesNat a n)
    else if a.1 == 0 && a.2 == 0 then
      if b.2 != 0 || b.1 < 0 then none else some (0.0, 0.0)
    else some (polarPower a b)
  if p.1.isInf || p.2.isInf then none else some (.complex p.1 p.2)

/-- A real power. A negative number with a broken exponent has a complex power. -/
def realPower? (x y : Float) : Option Folded :=
  if x.isNaN || y.isNaN || x.isInf || y.isInf then some (.real (x.pow y))
  else if x == 0 && y < 0 then none
  else if x < 0 && y != y.floor then complexPower? (x, 0.0) (y, 0.0)
  else
    let z := x.pow y
    if z.isInf then none else some (.real z)

/-! ## Operators -/

/-- Whether a value counts as true. -/
def truth : Folded → Bool
  | .unit b => b
  | .int n => n != 0
  | .real x => x != 0
  | .complex a b => a != 0 || b != 0
  | .text n => n != 0
  | .bytes bs => !bs.isEmpty
  | .tuple xs => !xs.isEmpty

def unary? : UnaryOp → Folded → Option Folded
  | .not, x => some (.int (if x.truth then 0 else 1))
  | .minus, .int n => some (.int (-n))
  | .minus, .real x => some (.real (-x))
  | .minus, .complex a b => some (.complex (-a) (-b))
  | .plus, .int n => some (.int n)
  | .plus, .real x => some (.real x)
  | .plus, .complex a b => some (.complex a b)
  | .invert, .int n => some (.int (-n - 1))
  | _, _ => none

/-- A power of whole numbers. -/
def intPower? (x y : Int) : Option Folded := do
  if y < 0 then realPower? (← quotient? x 1) (← quotient? y 1)
  else if x = 0 || y = 0 then some (.int (if y = 0 then 1 else 0))
  else if bits x > maxBits / y.toNat then none
  else some (.int (x.pow y.toNat))

/-- An operation on the bits of whole numbers, each taken with infinitely many sign bits. -/
def bitwise (f : Bool → Bool → Bool) (x y : Int) : Int :=
  let width := max (bits x) (bits y) + 1
  let part (n : Int) : Nat := (n.emod (Int.ofNat (Nat.pow 2 width))).toNat
  let r := Nat.bitwise f (part x) (part y)
  if r.testBit (width - 1) then Int.ofNat r - Int.ofNat (Nat.pow 2 width) else Int.ofNat r

def intBinary? (op : BinaryOp) (x y : Int) : Option Folded :=
  match op with
  | .add => some (.int (x + y))
  | .sub => some (.int (x - y))
  | .mul => if x != 0 && y != 0 && bits x + bits y > maxBits then none else some (.int (x * y))
  | .div => if y = 0 then none else (quotient? x y).map .real
  | .floorDiv => if y = 0 then none else some (.int (x.fdiv y))
  | .mod => if y = 0 then none else some (.int (x.fmod y))
  | .pow => intPower? x y
  | .shiftLeft =>
    if y < 0 then none
    else if x = 0 then some (.int 0)
    else if y.toNat > maxBits || bits x > maxBits - y.toNat then none
    else some (.int (x * Int.ofNat (Nat.pow 2 y.toNat)))
  | .shiftRight =>
    if y < 0 then none
    else if y.toNat > bits x then some (.int (if x < 0 then -1 else 0))
    else some (.int (x.fdiv (Int.ofNat (Nat.pow 2 y.toNat))))
  | .bitOr => some (.int (bitwise (· || ·) x y))
  | .bitXor => some (.int (bitwise (· != ·) x y))
  | .bitAnd => some (.int (bitwise (· && ·) x y))
  | .matMul => none

def realBinary? (op : BinaryOp) (x y : Float) : Option Folded :=
  match op with
  | .add => some (.real (x + y))
  | .sub => some (.real (x - y))
  | .mul => some (.real (x * y))
  | .div => if y == 0 then none else some (.real (x / y))
  | .floorDiv => if y == 0 then none else some (.real (floorDiv x y))
  | .mod => if y == 0 then none else some (.real (floorMod x y))
  | .pow => realPower? x y
  | _ => none

def complexBinary? (op : BinaryOp) (a b : Float × Float) : Option Folded :=
  match op with
  | .add => some (.complex (a.1 + b.1) (a.2 + b.2))
  | .sub => some (.complex (a.1 - b.1) (a.2 - b.2))
  | .mul => let (x, y) := times a b; some (.complex x y)
  | .div => (over? a b).map fun (x, y) => .complex x y
  | .pow => complexPower? a b
  | _ => none

/-- Whether a number can be that of repetitions. -/
def isCount (n : Int) : Bool := -Int.ofNat (Nat.pow 2 63) ≤ n && n < Int.ofNat (Nat.pow 2 63)

/-- A sequence repeated, if the result is not too large. A negative number of times is refused
unless the sequence is empty. -/
def repeated? (n : Int) (x : Folded) : Option Folded :=
  let fits (size limit : Nat) : Bool :=
    if size = 0 then isCount n else 0 ≤ n && n.toNat ≤ limit / size
  match x with
  | .text k => if fits k maxLength then some (.text (n.toNat * k)) else none
  | .bytes bs =>
    if fits bs.length maxLength then
      some (.bytes (if bs.isEmpty then [] else (List.replicate n.toNat bs).flatten))
    else none
  | .tuple xs =>
    if !fits xs.length maxItems then none
    else if xs.isEmpty || n = 0 then some (.tuple [])
    else if x.nested > maxNested / n.toNat then none
    else some (.tuple (List.replicate n.toNat xs).flatten)
  | _ => none

/-- An operation of two values. Texts and bytes are never folded as formats. -/
def binary? (op : BinaryOp) (x y : Folded) : Option Folded :=
  match op, x, y with
  | op, .int m, .int n => intBinary? op m n
  | .add, .text m, .text n => some (.text (m + n))
  | .add, .bytes a, .bytes b => some (.bytes (a ++ b))
  | .add, .tuple a, .tuple b => some (.tuple (a ++ b))
  | .mul, .int n, s => if s.complex?.isSome then numeric else repeated? n s
  | .mul, s, .int n => if s.complex?.isSome then numeric else repeated? n s
  | _, _, _ => numeric
where
  numeric : Option Folded := do
    match x, y with
    | .complex _ _, _ | _, .complex _ _ => complexBinary? op (← x.complex?) (← y.complex?)
    | _, _ => realBinary? op (← x.real?) (← y.real?)

/-- The place that an index names in a sequence; negative ones count from its end. -/
def place? (length : Nat) (i : Int) : Option Nat :=
  let i := if i < 0 then i + length else i
  if 0 ≤ i && i.toNat < length then some i.toNat else none

/-- An item of a sequence. -/
def item? : Folded → Folded → Option Folded
  | .text n, .int i => (place? n i).map fun _ => .text 1
  | .bytes bs, .int i => (place? bs.length i).bind fun k => bs[k]?.map (.int ·)
  | .tuple xs, .int i => (place? xs.length i).bind fun k => xs[k]?
  | _, _ => none

/-- The value of a literal. -/
def ofConstant : Constant → Folded
  | .none => .unit false
  | .ellipsis => .unit true
  | .bool b => .int (if b then 1 else 0)
  | .int n => .int n
  | .float x => .real (ofLiteral x)
  | .imaginary x => .complex 0.0 (ofLiteral x)
  | .str s _ => .text s.toList.length
  | .bytes bs => .bytes bs

end Folded

mutual

/-- The value an expression is folded into. The name `__debug__` is folded too. -/
def Expr.folded? : Expr → Option Folded
  | .const _ c => some (.ofConstant c)
  | .name _ id .load => if id == "__debug__" then some (.int 1) else none
  | .unary _ op e => do Folded.unary? op (← e.folded?)
  | .binary _ op l r => do Folded.binary? op (← l.folded?) (← r.folded?)
  | .display _ .tuple es => (Expr.allFolded? es).map .tuple
  | .subscript _ v i => do Folded.item? (← v.folded?) (← i.folded?)
  | _ => none

def Expr.allFolded? : List Expr → Option (List Folded)
  | [] => some []
  | e :: es => do return (← e.folded?) :: (← Expr.allFolded? es)

end

end JumpMacros
