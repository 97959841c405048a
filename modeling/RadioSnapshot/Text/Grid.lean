import RadioSnapshot.Text.DisplayWidth

/-!
# Tables drawn with box characters

Every cell is as wide as the widest line of its column and has a blank on both
sides. Cells are aligned to the left, and a line feed in a cell starts a new line
of its row.
-/

namespace RadioSnapshot.Grid

/-- The characters of a horizontal rule: left end, line, crossing, right end. -/
structure Rule where
  left : String
  line : String
  crossing : String
  right : String

def top : Rule := ⟨"┌", "─", "┬", "┐"⟩

/-- The rule below the heading. -/
def headingRule : Rule := ⟨"╞", "═", "╪", "╡"⟩

/-- The rule between two rows. -/
def rowRule : Rule := ⟨"├", "╌", "┼", "┤"⟩

def bottom : Rule := ⟨"└", "─", "┴", "┘"⟩

/-- A cell, line by line. -/
abbrev Cell := List String

def Cell.ofText (text : String) : Cell :=
  text.splitOn "\n"

def Cell.width (cell : Cell) : Nat :=
  (cell.map displayWidth).foldl max 0

/-- The width of each column. -/
def columnWidths : List (List Cell) → List Nat
  | [] => []
  | [row] => row.map Cell.width
  | row :: rest => List.zipWith max (row.map Cell.width) (columnWidths rest)

/-- A rule across columns of these widths. -/
def Rule.draw (rule : Rule) (widths : List Nat) : String :=
  rule.left ++
    rule.crossing.intercalate
      (widths.map fun width => String.join (List.replicate (width + 2) rule.line)) ++
    rule.right

/-- A line of a cell, filled up with blanks. -/
def pad (width : Nat) (text : String) : String :=
  " " ++ text ++ String.ofList (List.replicate (width - displayWidth text) ' ') ++ " "

/-- The lines of a row. Cells with fewer lines than others end in blank ones. -/
def rowLines (widths : List Nat) (row : List Cell) : List String :=
  let height := (row.map List.length).foldl max 0
  (List.range height).map fun index =>
    "│" ++ "┆".intercalate (List.zipWith (fun width cell =>
      pad width (cell.getD index "")) widths row) ++ "│"

/-- Rows with rules between them. -/
def bodyLines (widths : List Nat) : List (List Cell) → List String
  | [] => []
  | [row] => rowLines widths row
  | row :: next :: rest =>
      rowLines widths row ++ rowRule.draw widths :: bodyLines widths (next :: rest)

/-- A table with a heading, without a line feed at its end. -/
def render (heading : List String) (rows : List (List String)) : String :=
  let heading := heading.map Cell.ofText
  let rows := rows.map fun row => row.map Cell.ofText
  let widths := columnWidths (heading :: rows)
  "\n".intercalate <|
    top.draw widths :: rowLines widths heading ++
      headingRule.draw widths :: bodyLines widths rows ++ [bottom.draw widths]

end RadioSnapshot.Grid
