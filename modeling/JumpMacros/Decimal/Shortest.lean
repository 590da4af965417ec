import JumpMacros.Decimal.Binary64

/-!
# Shortest decimals

The written form of a binary64 value has the fewest digits that read back as the same value,
and among those the decimal nearest to it. For 1, 2, … 17 digits the two neighbours of the value
on that decimal grid are tried, in exact arithmetic.
-/

namespace JumpMacros.Decimal

/-- A decimal `digits · 10 ^ scale`. -/
structure Scientific where
  digits : Nat
  scale : Int
deriving DecidableEq, Repr

/-- A fraction `num / den`. -/
structure Fraction where
  num : Nat
  den : Nat

namespace Fraction

def le (a b : Fraction) : Bool := a.num * b.den ≤ b.num * a.den

def lt (a b : Fraction) : Bool := a.num * b.den < b.num * a.den

/-- `m · 2 ^ q`. -/
def binary (m : Nat) (q : Int) : Fraction :=
  if q ≥ 0 then ⟨m * Nat.pow 2 q.toNat, 1⟩ else ⟨m, Nat.pow 2 (-q).toNat⟩

/-- `d · 10 ^ s`. -/
def decimal (d : Nat) (s : Int) : Fraction :=
  if s ≥ 0 then ⟨d * Nat.pow 10 s.toNat, 1⟩ else ⟨d, Nat.pow 10 (-s).toNat⟩

/-- The distance between two fractions. -/
def dist (a b : Fraction) : Fraction :=
  let x := a.num * b.den
  let y := b.num * a.den
  ⟨if x ≤ y then y - x else x - y, a.den * b.den⟩

end Fraction

/-- The reals that round to `m · 2 ^ q`: between the two ends, which belong to it when `m` is
even. -/
structure Interval where
  low : Fraction
  high : Fraction
  closed : Bool

namespace Interval

def around (m : Nat) (q : Int) : Interval where
  low := if m = Nat.pow 2 52 && q > Binary64.minExponent then .binary (4 * m - 1) (q - 2)
    else .binary (2 * m - 1) (q - 1)
  high := .binary (2 * m + 1) (q - 1)
  closed := m % 2 = 0

def contains (i : Interval) (x : Fraction) : Bool :=
  if i.closed then i.low.le x && x.le i.high else i.low.lt x && x.lt i.high

end Interval

/-- The exponent of the first digit of a positive fraction: `10 ^ k ≤ x < 10 ^ (k + 1)`. The
estimate from the number of digits is at most one too high. -/
def leadingExponent (x : Fraction) : Int :=
  let k : Int := Int.ofNat (Nat.toDigits 10 x.num).length - Int.ofNat (Nat.toDigits 10 x.den).length
  if (Fraction.decimal 1 k).le x then k else k - 1

/-- The decimal with `n` digits in the interval that is nearest to `x`, if the interval has one;
a tie goes to the even digit. -/
def onGrid? (i : Interval) (x : Fraction) (k : Int) (n : Nat) : Option Scientific :=
  let s := k - Int.ofNat n + 1
  let d := if s ≥ 0 then x.num / (x.den * Nat.pow 10 s.toNat)
    else x.num * Nat.pow 10 (-s).toNat / x.den
  let below := Fraction.decimal d s
  let above := Fraction.decimal (d + 1) s
  match d != 0 && i.contains below, i.contains above with
  | false, false => none
  | true, false => some ⟨d, s⟩
  | false, true => some ⟨d + 1, s⟩
  | true, true =>
    let a := below.dist x
    let b := above.dist x
    if a.lt b then some ⟨d, s⟩
    else if b.lt a then some ⟨d + 1, s⟩
    else if d % 2 = 0 then some ⟨d, s⟩ else some ⟨d + 1, s⟩

/-- The shortest decimal that reads back as `m · 2 ^ q`. -/
def shortest (m : Nat) (q : Int) : Scientific :=
  if m = 0 then ⟨0, 0⟩
  else
    let x := Fraction.binary m q
    let i := Interval.around m q
    let k := leadingExponent x
    ((List.range 17).findSome? fun n => onGrid? i x k (n + 1)).getD ⟨0, 0⟩

/-- How a value is written: the exponents of the first digit that are written without an
exponent part, whether a whole number keeps `.0`, and the text of an infinite value. -/
structure NumberFormat where
  minPositional : Int
  maxPositional : Int
  keepPoint : Bool
  infinite : String

/-- Drops the zeros at the end of a digit sequence. -/
def trimZeros (ds : List Char) : List Char := (ds.reverse.dropWhile (· == '0')).reverse

/-- An exponent: a sign and at least two digits. -/
def exponentText (k : Int) : String :=
  let ds := toString k.natAbs
  (if k < 0 then "e-" else "e+") ++ (if ds.length < 2 then "0" ++ ds else ds)

/-- The text of a decimal in a format. -/
def NumberFormat.write (f : NumberFormat) (d : Scientific) : String :=
  let all := Nat.toDigits 10 d.digits
  let k : Int := Int.ofNat all.length - 1 + d.scale
  let ds := if d.digits = 0 then ['0'] else trimZeros all
  let point := if f.keepPoint then ".0" else ""
  if d.digits = 0 then "0" ++ point
  else if f.minPositional ≤ k && k ≤ f.maxPositional then
    if k < 0 then
      "0." ++ String.ofList (List.replicate ((-k).toNat - 1) '0' ++ ds)
    else if ds.length ≤ k.toNat + 1 then
      String.ofList (ds ++ List.replicate (k.toNat + 1 - ds.length) '0') ++ point
    else
      String.ofList (ds.take (k.toNat + 1)) ++ "." ++ String.ofList (ds.drop (k.toNat + 1))
  else
    let frac := if ds.length ≤ 1 then "" else "." ++ String.ofList (ds.drop 1)
    String.ofList (ds.take 1) ++ frac ++ exponentText k

/-- The text of a value in a format. -/
def NumberFormat.text (f : NumberFormat) : Binary64 → String
  | .infinite => f.infinite
  | .finite m q => f.write (shortest m q)

end JumpMacros.Decimal
