import FilterWatch.Text.Columns

/-!
Tables drawn with characters. A column is as wide as its widest line; a cell has as many lines as
its text, each aligned to the left.
-/

namespace FilterWatch

/-- A table of texts, all rows of which have as many cells as the header. -/
structure TextTable where
  header : List String
  rows : List (List String)
  deriving DecidableEq, Repr

namespace TextTable

def lines (cell : String) : List (List Char) := cell.toList.splitOn '\n'

def cellWidth (cell : String) : Nat := ((lines cell).map Text.columns).foldl max 0

def widths (table : TextTable) : List Nat :=
  table.rows.foldl (fun widths row => List.zipWith max widths (row.map cellWidth))
    (table.header.map cellWidth)

def repeated (c : Char) (count : Nat) : String := String.ofList (List.replicate count c)

/-- A line with a stroke under each column, between two ends. -/
def rule (ends : String) (widths : List Nat) : String :=
  ends ++ "+".intercalate (widths.map fun width => repeated '-' (width + 2)) ++ ends

/-- The line under the header, which runs through from end to end. -/
def headerRule (widths : List Nat) : String :=
  "+" ++ repeated '=' (widths.foldl (fun total width => total + width + 3) 0 - 1) ++ "+"

/-- A line of a cell, filled up with blanks. -/
def padded (width : Nat) (line : List Char) : String :=
  String.ofList line ++ repeated ' ' (width - Text.columns line)

/-- The lines of a row: as many as its highest cell has. -/
def rowLines (widths : List Nat) (row : List String) : List String :=
  let cells := row.map lines
  let height := (cells.map List.length).foldl max 0
  (List.range height).map fun index =>
    let texts := List.zipWith (fun width cell => padded width (cell.getD index [])) widths cells
    "| " ++ " | ".intercalate texts ++ " |"

/-- The whole drawing, each line with its line break. -/
def text (table : TextTable) : String :=
  let widths := table.widths
  let border := rule "+" widths
  let body := [rule "|" widths].intercalate (table.rows.map (rowLines widths))
  let all := [border] ++ rowLines widths table.header ++ [headerRule widths] ++ body ++ [border]
  String.join (all.map (· ++ "\n"))

end TextTable

end FilterWatch
