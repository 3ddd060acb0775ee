import FirewallOrder.Text.Width
/-!
# Tables

A table in a frame with round corners: a head, a line, and a row for each entry. Columns are as wide
as their widest cell, with a blank on both sides, and cells begin at the left. A cell may have
several lines; its row then has as many.
-/

namespace FirewallOrder.Text

/-- The lines of a cell. -/
def cellLines (s : String) : List String :=
  (go s.toList).map String.ofList
where
  go : List Char → List (List Char)
    | [] => [[]]
    | '\n' :: cs => [] :: go cs
    | c :: cs =>
      match go cs with
      | [] => [[c]]
      | line :: rest => (c :: line) :: rest

/-- The width of the widest line of a cell. -/
def cellWidth (s : String) : Nat :=
  ((cellLines s).map width).foldl max 0

/-- The text filled up with blanks. -/
def padRight (n : Nat) (s : String) : String :=
  s ++ String.ofList (List.replicate (n - width s) ' ')

/-- The widths of the columns of some rows. -/
def columnWidths : List (List String) → List Nat
  | [] => []
  | [row] => row.map cellWidth
  | row :: rows => List.zipWith max (row.map cellWidth) (columnWidths rows)

/-- A line between rows. -/
def ruleLine (left middle right : String) (widths : List Nat) : String :=
  left ++ middle.intercalate (widths.map fun n => String.ofList (List.replicate (n + 2) '─')) ++
    right

/-- A row, with as many lines as its highest cell. -/
def rowLines (widths : List Nat) (row : List String) : List String :=
  let cells := row.map cellLines
  let height := (cells.map List.length).foldl max 1
  (List.range height).map fun i =>
    "│" ++ "│".intercalate
      (List.zipWith (fun n lines => " " ++ padRight n (lines.getD i "") ++ " ") widths cells) ++ "│"

/-- The table of a head and rows, all of the same length. -/
def table (head : List String) (rows : List (List String)) : String :=
  let widths := columnWidths (head :: rows)
  "\n".intercalate
    ([ruleLine "╭" "┬" "╮" widths] ++ rowLines widths head ++ [ruleLine "├" "┼" "┤" widths] ++
      rows.flatMap (rowLines widths) ++ [ruleLine "╰" "┴" "╯" widths])

end FirewallOrder.Text
