import JumpMacros.Unicode.NormalTable

/-!
# Compatibility normal form

Identifiers are compared in compatibility normal form (NFKC): every code point is decomposed,
marks are put in canonical order, and what composes is composed again. ASCII texts are their
own normal form.
-/

namespace JumpMacros.Text.Normal

/-! ## Hangul syllables, by arithmetic -/

def hangulBase : Nat := 0xac00
def leadBase : Nat := 0x1100
def vowelBase : Nat := 0x1161
def trailBase : Nat := 0x11a7

def isHangul (c : Nat) : Bool := hangulBase ≤ c && c < hangulBase + 11172

def decomposeHangul (c : Nat) : List Nat :=
  let i := c - hangulBase
  let lv := [leadBase + i / 588, vowelBase + i % 588 / 28]
  if i % 28 = 0 then lv else lv ++ [trailBase + i % 28]

def composeHangul (a b : Nat) : Option Nat :=
  if leadBase ≤ a && a < leadBase + 19 && vowelBase ≤ b && b < vowelBase + 21 then
    some (hangulBase + ((a - leadBase) * 21 + (b - vowelBase)) * 28)
  else if isHangul a && (a - hangulBase) % 28 = 0 && trailBase < b && b < trailBase + 28 then
    some (a + (b - trailBase))
  else none

/-! ## Decomposition and canonical order -/

/-- The full compatibility decomposition of one code point. -/
def decompose (c : Nat) : List Nat :=
  if c < 0xa0 then [c]
  else if isHangul c then decomposeHangul c
  else
    match decompositionTables.find? fun (lo, hi, _) => lo ≤ c && c ≤ hi with
    | none => [c]
    | some (_, _, table) => (table.lookup c).getD [c]

/-- The canonical combining class; 0 for a code point that does not combine. -/
def combiningClass (c : Nat) : Nat :=
  if c < 0x300 then 0
  else
    match combiningClasses.find? fun (lo, hi, _) => lo ≤ c && c ≤ hi with
    | none => 0
    | some (_, _, k) => k

/-- Inserts a code point before the trailing marks of a higher class; `seen` is reversed. -/
def insertMark (c : Nat) : List Nat → List Nat
  | [] => [c]
  | d :: ds =>
    if combiningClass c ≠ 0 && combiningClass c < combiningClass d then d :: insertMark c ds
    else c :: d :: ds

/-- Puts each run of marks in order of their classes, equal classes as they stood. -/
def order (cs : List Nat) : List Nat := (cs.foldl (fun seen c => insertMark c seen) []).reverse

/-! ## Composition -/

def composePair (a b : Nat) : Option Nat :=
  match composeHangul a b with
  | some c => some c
  | none => (compositions.find? fun (x, y, _) => x == a && y == b).map fun (_, _, c) => c

/-- The state of composition: finished code points in reverse, the last starter with the marks
that followed it in reverse, and the class of the last of these marks. -/
structure Open where
  finished : List Nat
  starter : Option Nat
  marks : List Nat

/-- What an open composition stands for, in reverse. -/
def Open.flush (o : Open) : List Nat :=
  o.marks ++ (match o.starter with
    | none => []
    | some s => [s]) ++ o.finished

/-- Takes one more code point: it joins the starter if nothing between blocks it. -/
def Open.push (o : Open) (c : Nat) : Open :=
  let k := combiningClass c
  let blocked := match o.marks with
    | [] => false
    | m :: _ => combiningClass m ≥ k
  let joined := match o.starter with
    | some s => if blocked then none else composePair s c
    | none => none
  match joined with
  | some s => { o with starter := some s }
  | none =>
    if k = 0 then ⟨o.flush, some c, []⟩ else { o with marks := c :: o.marks }

def compose (cs : List Nat) : List Nat :=
  ((cs.foldl Open.push ⟨[], none, []⟩).flush).reverse

/-- The compatibility normal form of a sequence of code points. -/
def normalise (cs : List Nat) : List Nat := compose (order (cs.flatMap decompose))

end Normal

/-- The compatibility normal form of a text. -/
def normalForm (s : String) : String :=
  if s.toList.all (·.toNat < 128) then s
  else String.ofList ((Normal.normalise (s.toList.map Char.toNat)).map Char.ofNat)

end JumpMacros.Text
