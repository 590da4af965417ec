/-!
# Tables for a terminal

A table with a title and a header, drawn with lines. All columns are as wide as their contents,
except the last one: it takes the rest of the terminal, and its texts are broken between words.
-/

namespace JumpMacros

/-- A table: each row has as many cells as there are headers. -/
structure TextTable where
  title : String
  headers : List String
  rows : List (List String)

namespace TextTable

/-- The width of the terminal. -/
def terminalWidth : Nat := 80

def blanks (n : Nat) : String := String.ofList (List.replicate n ' ')

/-- A text with blanks behind it up to a width. -/
def padded (width : Nat) (s : String) : String := s ++ blanks (width - s.length)

/-- A text in the middle of a width; an odd blank goes behind it. -/
def centred (width : Nat) (s : String) : String :=
  padded width (blanks ((width - s.length) / 2) ++ s)

/-- Puts words on lines of a width, as many on each as fit. `line` is the line so far. -/
def fillLines (width : Nat) (line : String) : List String → List String
  | [] => [line]
  | w :: ws =>
    if line.isEmpty then fillLines width w ws
    else if line.length + 1 + w.length ≤ width then fillLines width (line ++ " " ++ w) ws
    else line :: fillLines width w ws

/-- A text on lines of a width. -/
def wrapped (width : Nat) (s : String) : List String := fillLines width "" (s.splitOn " ")

/-- The widths of the columns without the blanks beside the texts. -/
def widths (t : TextTable) : List Nat :=
  let cells := t.headers :: t.rows
  let columns := List.range t.headers.length
  let natural := columns.map fun i => (cells.map fun r => (r.getD i "").length).foldl max 0
  let first := natural.dropLast
  let rest := terminalWidth - (t.headers.length + 1) - first.foldl (fun n w => n + w + 2) 0 - 2
  first ++ [rest]

/-- A line across the table. -/
def rule (widths : List Nat) (left line cross right : String) : String :=
  left ++ cross.intercalate (widths.map fun w => String.join (List.replicate (w + 2) line)) ++ right

/-- A line of cells. -/
def cellLine (widths : List Nat) (bar : String) (cells : List String) : String :=
  bar ++ bar.intercalate ((widths.zip cells).map fun (w, c) => " " ++ padded w c ++ " ") ++ bar

/-- The lines of a row: as many as its longest cell has. -/
def rowLines (widths : List Nat) (bar : String) (cells : List String) : List String :=
  let broken := (widths.zip cells).map fun (w, c) => wrapped w c
  let height := (broken.map List.length).foldl max 0
  (List.range height).map fun i => cellLine widths bar (broken.map fun ls => ls.getD i "")

/-- The lines of a table. -/
def lines (t : TextTable) : List String :=
  let ws := t.widths
  [centred terminalWidth t.title, rule ws "┏" "━" "┳" "┓"] ++ rowLines ws "┃" t.headers ++
    [rule ws "┡" "━" "╇" "┩"] ++ t.rows.flatMap (rowLines ws "│") ++ [rule ws "└" "─" "┴" "┘"]

/-- The text of a table. -/
def text (t : TextTable) : String := String.join (t.lines.map (· ++ "\n"))

end TextTable

end JumpMacros
