import SceneScript.Datum.Display
import SceneScript.OrderedMap
import SceneScript.Output.Console

/-! # Tables

A table has one column for each key of its first row.

* `Table.headers`, `Table.cells` — what stands in a table;
* `Table.plainText` — the rows as lines, without a frame;
* `Table.draw` — the framed table on a display without styles.
-/

namespace SceneScript

abbrev Row := OrderedMap Text Datum

structure Table where
  rows : List Row
  title : Option Text := none

namespace Table

def columns (table : Table) : List Text := (table.rows.head?.map (·.keys)).getD []

def header (column : Text) : Text :=
  Text.title (column.map fun c => if c = '_' then ' ' else c)

def headers (table : Table) : List Text := table.columns.map header

/-- A row that lacks a column has an empty cell there. -/
def cell (row : Row) (column : Text) : Text := ((row.get? column).map (·.display)).getD []

def cells (table : Table) : List (List Text) :=
  table.rows.map fun row => table.columns.map (cell row)

/-- The cells of each column. -/
def columnCells (table : Table) : List (List Text) :=
  table.columns.map fun column => table.rows.map (cell · column)

def noRows : Text := "No data to display"

def plainText (table : Table) : Text :=
  if table.rows = [] then noRows
  else Text.join "\n" (table.cells.map (Text.join "  "))

/-! ## Drawing -/

/-- The strokes of a horizontal line: its ends, its middle, and where columns meet. -/
structure Rule where
  left : Char
  stroke : Char
  between : Char
  right : Char

def topRule : Rule := ⟨'┏', '━', '┳', '┓'⟩
def headerRule : Rule := ⟨'┡', '━', '╇', '┩'⟩
def bottomRule : Rule := ⟨'└', '─', '┴', '┘'⟩

def Rule.draw (rule : Rule) (widths : List Nat) : Text :=
  rule.left :: Text.join [rule.between] (widths.map fun w => List.replicate (w + 2) rule.stroke) ++
    [rule.right]

/-- The cells of a row side by side, each in its column. -/
def drawRow (bar : Char) (widths : List Nat) (row : List Text) : List Text :=
  let cells := List.zipWith (Console.wrap .ellipsis) widths row
  let height := (cells.map List.length).foldl max 1
  (List.range height).map fun i =>
    bar :: Text.join [bar]
        (List.zipWith (fun w lines => " " ++ Text.padRight w (lines[i]?.getD []) ++ " ")
          widths cells) ++
      [bar]

def drawTitle (width : Nat) (title : Text) : List Text :=
  (Console.wrap .fold width title).map fun line => Text.center width (Text.stripEnd line)

/-- The texts of the columns, from their headers down. -/
def shownColumns (table : Table) : Except Markup.Fault (List (List Text)) :=
  table.columns.mapM fun column =>
    (header column :: table.rows.map (cell · column)).mapM Markup.plain

def draw (table : Table) : Except Markup.Fault Text := do
  let columns ← table.shownColumns
  let title ← table.title.mapM Markup.plain
  let widths := columns.map fun cells => (cells.map Console.measure).foldl max 0
  let width := widths.foldl (fun cells width => cells + width + 3) 1
  let row (i : Nat) : List Text := columns.map fun cells => cells[i]?.getD []
  let body := table.rows.mapIdx fun i _ => drawRow '│' widths (row (i + 1))
  let lines := (title.map (drawTitle width)).getD [] ++
    topRule.draw widths :: drawRow '┃' widths (row 0) ++
    headerRule.draw widths :: body.flatten ++ [bottomRule.draw widths]
  return lines.flatMap (· ++ ['\n'])

end Table

end SceneScript
