import ClusterTick.Text.Width

/-!
# Tables

Rows of cells in boxes of plain characters.  A column is as wide as its widest
line, a row as high as its highest cell, and the text of a cell stands at its
upper left.
-/

namespace ClusterTick.Text

/-- A text cut at the ends of its lines; a text that ends with one has an empty
last line. -/
def splitLines : List Char → List (List Char)
  | [] => [[]]
  | '\n' :: rest => [] :: splitLines rest
  | c :: rest =>
    match splitLines rest with
    | line :: lines => (c :: line) :: lines
    | [] => [[c]]

/-- A row of cells, each cell a list of lines. -/
abbrev TableRow := List (List (List Char))

/-- The columns that the widest line of a cell takes. -/
def cellWidth (cell : List (List Char)) : Nat :=
  cell.foldl (fun width line => max width (displayWidth line)) 0

/-- The greater width of each column.  A row may be shorter than another. -/
def wider : List Nat → List Nat → List Nat
  | left :: lefts, right :: rights => max left right :: wider lefts rights
  | [], rights => rights
  | lefts, [] => lefts

/-- The widths of the columns of a table. -/
def columnWidths (rows : List TableRow) : List Nat :=
  rows.foldl (fun widths row => wider widths (row.map cellWidth)) []

/-- A line between two rows. -/
def ruleLine (widths : List Nat) : List Char :=
  '+' :: widths.flatMap fun width => List.replicate (width + 2) '-' ++ ['+']

/-- A line of text, filled up with blanks. -/
def padLine (width : Nat) (line : List Char) : List Char :=
  line ++ List.replicate (width - displayWidth line) ' '

/-- One line of a row; a cell that has no such line is blank there. -/
def rowLine (widths : List Nat) (row : TableRow) (index : Nat) : List Char :=
  '|' :: (widths.zip row).flatMap fun (width, cell) =>
    ' ' :: padLine width (cell[index]?.getD []) ++ [' ', '|']

/-- All lines of a row. -/
def rowLines (widths : List Nat) (row : TableRow) : List (List Char) :=
  let height := row.foldl (fun height cell => max height cell.length) 1
  (List.range height).map (rowLine widths row)

/-- The lines of a table, a rule above the first row and below every row. -/
def tableLines (rows : List (List String)) : List String :=
  let rows : List TableRow :=
    rows.map fun row => row.map fun cell => splitLines cell.toList
  let widths := columnWidths rows
  let rule := ruleLine widths
  (rule :: rows.flatMap fun row => rowLines widths row ++ [rule]).map
    String.ofList

end ClusterTick.Text
