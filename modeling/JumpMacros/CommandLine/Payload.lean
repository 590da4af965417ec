import JumpMacros.Text.Quoted

/-!
# Payloads

Structured output: JSON, with the members of objects in order of their names, two blanks of
indentation for each level, and every character outside ASCII escaped.
-/

namespace JumpMacros

/-- A JSON value. -/
inductive Payload where
  | null
  | bool (b : Bool)
  | int (n : Int)
  | str (s : String)
  | list (items : List Payload)
  | object (members : List (String × Payload))

namespace Payload

/-- The escape of a UTF-16 unit. -/
def unit (n : Nat) : String := "\\u" ++ Text.hexDigits 4 n

/-- A character inside quotes. -/
def character (c : Char) : String :=
  let n := c.toNat
  if c == '"' then "\\\""
  else if c == '\\' then "\\\\"
  else if c == '\n' then "\\n"
  else if c == '\r' then "\\r"
  else if c == '\t' then "\\t"
  else if n = 0x08 then "\\b"
  else if n = 0x0c then "\\f"
  else if 0x20 ≤ n && n < 0x7f then String.singleton c
  else if n < 0x10000 then unit n
  else unit (0xd800 + (n - 0x10000) / 0x400) ++ unit (0xdc00 + (n - 0x10000) % 0x400)

/-- A text in quotes. -/
def string (s : String) : String := "\"" ++ String.join (s.toList.map character) ++ "\""

/-- A new line at a level. -/
def newLine (level : Nat) : String := "\n" ++ String.ofList (List.replicate (2 * level) ' ')

/-- What stands between brackets, an item on each line. -/
def bracketed (level : Nat) (opening closing : String) (items : List String) : String :=
  if items.isEmpty then opening ++ closing
  else
    opening ++ newLine (level + 1) ++ ("," ++ newLine (level + 1)).intercalate items ++
      newLine level ++ closing

/-- Members in order of their names. -/
def sortMembers (ms : List (String × String)) : List (String × String) :=
  ms.mergeSort fun a b => decide (a.1 ≤ b.1)

mutual

/-- The text of a payload at a level. -/
def textAt (level : Nat) : Payload → String
  | .null => "null"
  | .bool b => if b then "true" else "false"
  | .int n => toString n
  | .str s => string s
  | .list items => bracketed level "[" "]" (itemTexts (level + 1) items)
  | .object ms =>
    bracketed level "\x7b" "\x7d"
      ((sortMembers (memberTexts (level + 1) ms)).map fun (k, t) => string k ++ ": " ++ t)

def itemTexts (level : Nat) : List Payload → List String
  | [] => []
  | p :: ps => p.textAt level :: itemTexts level ps

def memberTexts (level : Nat) : List (String × Payload) → List (String × String)
  | [] => []
  | (k, p) :: ps => (k, p.textAt level) :: memberTexts level ps

end

/-- The text of a payload. -/
def text (p : Payload) : String := p.textAt 0

/-- A value that may be missing. -/
def option {α : Type} (f : α → Payload) : Option α → Payload
  | some a => f a
  | none => .null

end Payload

end JumpMacros
