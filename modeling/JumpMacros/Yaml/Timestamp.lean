/-!
# Timestamps

The dates and times of YAML scalars: a date, or a date with a time and maybe an offset from
universal time. A spelling is split by `Timestamp.Spelling.ofText?`; `Timestamp.ofSpelling` checks
that it names a day of the calendar and a time of the day.
-/

namespace JumpMacros.Yaml

/-- Why a spelling is no timestamp. -/
inductive TimeProblem where
  | year (n : Nat)
  | month
  | day
  | hour
  | minute
  | second
  | offset (minutes : Int)
deriving DecidableEq, Repr

/-- A time of a day, with the offset in minutes if one is given. -/
structure TimeOfDay where
  hour : Nat
  minute : Nat
  second : Nat
  micros : Nat
  offset : Option Int
deriving DecidableEq, Repr

/-- A date, maybe with a time. -/
structure Timestamp where
  year : Nat
  month : Nat
  day : Nat
  time : Option TimeOfDay
deriving DecidableEq, Repr

namespace TimeProblem

/-- The span of an offset in days and seconds, as it is shown. -/
def offsetText (minutes : Int) : String :=
  let days := minutes.fdiv 1440
  let seconds := minutes.fmod 1440 * 60
  let parts := (if days = 0 then [] else ["days=" ++ toString days]) ++
    (if seconds = 0 then [] else ["seconds=" ++ toString seconds])
  "datetime.timedelta(" ++ ", ".intercalate parts ++ ")"

def message : TimeProblem → String
  | .year n => "year " ++ toString n ++ " is out of range"
  | .month => "month must be in 1..12"
  | .day => "day is out of range for month"
  | .hour => "hour must be in 0..23"
  | .minute => "minute must be in 0..59"
  | .second => "second must be in 0..59"
  | .offset m =>
    "offset must be a timedelta strictly between -timedelta(hours=24) and timedelta(hours=24), " ++
      "not " ++ offsetText m ++ "."

end TimeProblem

namespace Timestamp

/-! ## Spellings -/

/-- The parts of a spelling, each of them digits. `zone` tells whether an offset is negative, its
hours and its minutes. -/
structure Spelling where
  year : List Char
  month : List Char
  day : List Char
  time : Option (List Char × List Char × List Char)
  fraction : List Char
  zone : Option (Bool × List Char × List Char)
  isUniversal : Bool

/-- Splits digits off a text, at least `least` and at most `most`. -/
def digits? (least most : Nat) (cs : List Char) : Option (List Char × List Char) :=
  let ds := (cs.take most).takeWhile Char.isDigit
  if ds.length < least then none else some (ds, cs.drop ds.length)

/-- Takes a character off a text. -/
def mark? (c : Char) : List Char → Option (List Char)
  | d :: ds => if c == d then some ds else none
  | [] => none

def isSpace (c : Char) : Bool := c == ' ' || c == '\t'

/-- What stands between date and time: a letter or blanks. -/
def between? : List Char → Option (List Char)
  | 'T' :: cs | 't' :: cs => some cs
  | c :: cs => if isSpace c then some (cs.dropWhile isSpace) else none
  | [] => none

/-- The offset at the end of a spelling. -/
def zone? (cs : List Char) : Option (Option (Bool × List Char × List Char) × Bool) :=
  match cs.dropWhile isSpace with
  | [] => if cs.isEmpty then some (none, false) else none
  | ['Z'] => some (none, true)
  | sign :: rest => do
    if sign != '-' && sign != '+' then none
    let (hours, rest) ← digits? 1 2 rest
    if rest.isEmpty then return (some (sign == '-', hours, []), false)
    let (minutes, rest) ← digits? 2 2 (← mark? ':' rest)
    if rest.isEmpty then some (some (sign == '-', hours, minutes), false) else none

/-- Splits a spelling. -/
def Spelling.ofText? (s : String) : Option Spelling := do
  let (year, cs) ← digits? 4 4 s.toList
  let (month, cs) ← digits? 1 2 (← mark? '-' cs)
  let (day, cs) ← digits? 1 2 (← mark? '-' cs)
  if cs.isEmpty then return ⟨year, month, day, none, [], none, false⟩
  let (hour, cs) ← digits? 1 2 (← between? cs)
  let (minute, cs) ← digits? 2 2 (← mark? ':' cs)
  let (second, cs) ← digits? 2 2 (← mark? ':' cs)
  let (fraction, cs) := match cs with
    | '.' :: rest => (rest.takeWhile Char.isDigit, rest.dropWhile Char.isDigit)
    | cs => ([], cs)
  let (zone, isUniversal) ← zone? cs
  return ⟨year, month, day, some (hour, minute, second), fraction, zone, isUniversal⟩

/-- Whether a plain scalar is a timestamp: without a time, month and day have two digits. -/
def Spelling.isPlain (s : Spelling) : Bool :=
  s.time.isSome || (s.month.length = 2 && s.day.length = 2)

/-! ## The calendar -/

def isLeap (year : Nat) : Bool := year % 4 = 0 && (year % 100 ≠ 0 || year % 400 = 0)

/-- The number of days of a month. -/
def daysIn (year month : Nat) : Nat :=
  if month = 2 then if isLeap year then 29 else 28
  else if [4, 6, 9, 11].contains month then 30 else 31

def checkDate (year month day : Nat) : Except TimeProblem Unit :=
  if year = 0 then .error (.year year)
  else if month = 0 || month > 12 then .error .month
  else if day = 0 || day > daysIn year month then .error .day
  else .ok ()

def checkTime (hour minute second : Nat) : Except TimeProblem Unit :=
  if hour > 23 then .error .hour
  else if minute > 59 then .error .minute
  else if second > 59 then .error .second
  else .ok ()

def digitsNumber (ds : List Char) : Nat := ds.foldl (fun n c => n * 10 + (c.toNat - 48)) 0

/-- The six digits after the point of a second. -/
def micros (fraction : List Char) : Nat :=
  let ds := fraction.take 6
  digitsNumber (ds ++ List.replicate (6 - ds.length) '0')

/-- The offset of a spelling in minutes; it is less than a day. -/
def offset (s : Spelling) : Except TimeProblem (Option Int) :=
  match s.zone with
  | none => .ok (if s.isUniversal then some 0 else none)
  | some (negative, hours, minutes) =>
    let n := Int.ofNat (digitsNumber hours * 60 + digitsNumber minutes)
    let n := if negative then -n else n
    if n.natAbs < 1440 then .ok (some n) else .error (.offset n)

/-- The timestamp of a spelling. -/
def ofSpelling (s : Spelling) : Except TimeProblem Timestamp := do
  let year := digitsNumber s.year
  let month := digitsNumber s.month
  let day := digitsNumber s.day
  match s.time with
  | none =>
    checkDate year month day
    return ⟨year, month, day, none⟩
  | some (hour, minute, second) =>
    let offset ← offset s
    let hour := digitsNumber hour
    let minute := digitsNumber minute
    let second := digitsNumber second
    checkDate year month day
    checkTime hour minute second
    return ⟨year, month, day, some ⟨hour, minute, second, micros s.fraction, offset⟩⟩

/-! ## Text and order -/

/-- A number with leading zeros. -/
def padded (width n : Nat) : String :=
  let ds := toString n
  String.ofList (List.replicate (width - ds.length) '0') ++ ds

def TimeOfDay.text (t : TimeOfDay) : String :=
  let zone := match t.offset with
    | none => ""
    | some n => (if n < 0 then "-" else "+") ++ padded 2 (n.natAbs / 60) ++ ":" ++
        padded 2 (n.natAbs % 60)
  padded 2 t.hour ++ ":" ++ padded 2 t.minute ++ ":" ++ padded 2 t.second ++
    (if t.micros = 0 then "" else "." ++ padded 6 t.micros) ++ zone

/-- The text of a timestamp. -/
def text (t : Timestamp) : String :=
  padded 4 t.year ++ "-" ++ padded 2 t.month ++ "-" ++ padded 2 t.day ++
    match t.time with
    | none => ""
    | some x => " " ++ TimeOfDay.text x

/-- The number of days before a date. -/
def dayNumber (t : Timestamp) : Nat :=
  let y := t.year - 1
  365 * y + y / 4 - y / 100 + y / 400 +
    (List.range (t.month - 1)).foldl (fun n m => n + daysIn t.year (m + 1)) t.day

/-- The microseconds of a time with an offset, in universal time. -/
def instant? (t : Timestamp) : Option Int := do
  let x ← t.time
  let offset ← x.offset
  return (((Int.ofNat t.dayNumber * 24 + x.hour) * 60 + x.minute - offset) * 60 + x.second) *
    1000000 + x.micros

/-- Whether two timestamps are equal. Two times with offsets are if they are the same instant. -/
def same (a b : Timestamp) : Bool :=
  match a.instant?, b.instant? with
  | some x, some y => x == y
  | _, _ => a == b

end Timestamp

end JumpMacros.Yaml
