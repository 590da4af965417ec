/-!
# Binary64 values of decimal literals

A decimal literal denotes the nearest binary64 value, a tie going to the even significand.
The value is kept exactly, as `m · 2 ^ q`, so that everything about it is arithmetic on `Nat`.
-/

namespace JumpMacros.Decimal

/-- A non-negative binary64 value: `significand · 2 ^ exponent`, or too large to be finite. -/
inductive Binary64 where
  | finite (significand : Nat) (exponent : Int)
  | infinite
deriving DecidableEq, Repr, Inhabited

namespace Binary64

def zero : Binary64 := .finite 0 0

/-- The least exponent of a binary64 value. -/
def minExponent : Int := -1074

/-- The greatest exponent of a binary64 value with a full significand. -/
def maxExponent : Int := 971

/-- `n / d` to the nearest natural number, a tie going to the even one. -/
def roundDiv (n d : Nat) : Nat :=
  let q := n / d
  let r := n % d
  if 2 * r < d then q
  else if 2 * r > d then q + 1
  else if q % 2 = 0 then q else q + 1

/-- `n / d · 2 ^ (-q)` as a fraction. -/
def scaled (n d : Nat) (q : Int) : Nat × Nat :=
  if q ≥ 0 then (n, d * Nat.pow 2 q.toNat) else (n * Nat.pow 2 (-q).toNat, d)

/-- The binary64 value nearest to `n / d`. -/
def ofFraction (n d : Nat) : Binary64 :=
  if n = 0 then zero
  else
    -- the quotient lies in `[2 ^ (e - 1), 2 ^ (e + 1))`
    let e : Int := Int.ofNat n.log2 - Int.ofNat d.log2
    let guess := max minExponent (e - 53)
    let (a, b) := scaled n d guess
    let q := if a / b < Nat.pow 2 53 then guess else guess + 1
    let (a, b) := scaled n d q
    let m := roundDiv a b
    let (m, q) := if m = Nat.pow 2 53 then (Nat.pow 2 52, q + 1) else (m, q)
    if q > maxExponent then .infinite else .finite m q

/-- A finite value as a fraction. -/
def fraction? : Binary64 → Option (Nat × Nat)
  | .finite m q =>
    some (if q ≥ 0 then (m * Nat.pow 2 q.toNat, 1) else (m, Nat.pow 2 (-q).toNat))
  | .infinite => none

/-- The sum of two values, rounded. -/
def add (a b : Binary64) : Binary64 :=
  match a.fraction?, b.fraction? with
  | some (n, d), some (m, e) => ofFraction (n * e + m * d) (d * e)
  | _, _ => .infinite

/-- The product of two values, rounded. -/
def mul (a b : Binary64) : Binary64 :=
  match a.fraction?, b.fraction? with
  | some (n, d), some (m, e) => ofFraction (n * m) (d * e)
  | _, _ => .infinite

/-- The binary64 value nearest to `digits · 10 ^ scale`. The first test keeps the powers small. -/
def ofDecimal (digits : Nat) (scale : Int) : Binary64 :=
  if digits = 0 then zero
  else
    let size : Int := scale + Int.ofNat (Nat.toDigits 10 digits).length
    if size > 400 then .infinite
    else if size < -400 then zero
    else if scale ≥ 0 then ofFraction (digits * Nat.pow 10 scale.toNat) 1
    else ofFraction digits (Nat.pow 10 (-scale).toNat)

end Binary64

end JumpMacros.Decimal
