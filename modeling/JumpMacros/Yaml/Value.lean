import JumpMacros.Decimal.Shortest
import JumpMacros.Decimal.Whole
import JumpMacros.Text.Quoted
import JumpMacros.Yaml.Timestamp

/-!
# YAML values

The values of YAML documents. The keys of a mapping are distinct: a later entry with an equal key
replaces the value of the earlier one and keeps its key.
-/

namespace JumpMacros

open Decimal (Binary64 NumberFormat)

/-- A YAML value. -/
inductive Yaml where
  | null
  | bool (b : Bool)
  | int (n : Int)
  | float (negative : Bool) (magnitude : Binary64)
  | notANumber
  | time (t : Yaml.Timestamp)
  | text (s : String)
  | bytes (bs : List Nat)
  | list (items : List Yaml)
  | map (entries : List (Yaml × Yaml))
deriving Repr, Inhabited

namespace Yaml

/-! ## Keys -/

/-- How the numbers among the keys are written. -/
def keyNumber : NumberFormat := ⟨-4, 15, true, "inf"⟩

/-- The text of a key. -/
def keyText : Yaml → String
  | .null => "None"
  | .bool b => if b then "True" else "False"
  | .int n => toString n
  | .float negative x => (if negative then "-" else "") ++ keyNumber.text x
  | .notANumber => "nan"
  | .time t => t.text
  | .text s => s
  | .bytes bs => Text.quotedBytes bs
  | .list _ | .map _ => ""

/-- Whether a key is a number that has too many digits to be written. -/
def isTooLong : Yaml → Bool
  | .int n => Decimal.isTooLong n
  | _ => false

/-- Whether a value can be a key. -/
def isKey : Yaml → Bool
  | .list _ | .map _ => false
  | _ => true

/-- The number a value stands for, as a fraction; the truth values are 0 and 1. -/
def fraction? : Yaml → Option (Int × Nat)
  | .bool b => some (if b then 1 else 0, 1)
  | .int n => some (n, 1)
  | .float negative x =>
    x.fraction?.map fun (n, d) => (if negative then -Int.ofNat n else Int.ofNat n, d)
  | _ => none

/-- Whether two keys are equal. Numbers are equal by value. -/
def sameKey (a b : Yaml) : Bool :=
  match a, b with
  | .null, .null => true
  | .text s, .text t => s == t
  | .bytes s, .bytes t => s == t
  | .time s, .time t => s.same t
  | .notANumber, .notANumber => true
  | .float n .infinite, .float m .infinite => n == m
  | _, _ =>
    match a.fraction?, b.fraction? with
    | some (n, d), some (m, e) => n * Int.ofNat e == m * Int.ofNat d
    | _, _ => false

/-- Puts an entry into a mapping. -/
def putEntry (key value : Yaml) : List (Yaml × Yaml) → List (Yaml × Yaml)
  | [] => [(key, value)]
  | (k, v) :: rest => if k.sameKey key then (k, value) :: rest else (k, v) :: putEntry key value rest

/-- The entries of a mapping that is written with these entries. -/
def ofEntries (entries : List (Yaml × Yaml)) : List (Yaml × Yaml) :=
  entries.foldl (fun done (k, v) => putEntry k v done) []

/-- The value with a text as its key. -/
def get? (entries : List (Yaml × Yaml)) (key : String) : Option Yaml :=
  (entries.find? fun e => e.1.sameKey (.text key)).map (·.2)

end Yaml

end JumpMacros
