import NamedConstants.Console
import NamedConstants.Text.Padding
import NamedConstants.Text.Wrap

/-!
# Ruled tables

A table with lines drawn around its cells.  A column is as wide as the widest line in it,
measured in terminal cells, and at least as wide as asked for.  A cell with several lines
makes its row as high, and the other cells of the row are blank there.  The title stands
centred above.
-/

namespace NamedConstants.Table

/-- A column of a ruled table. -/
structure Column where
  header : String
  /-- The least width of the column. -/
  least : Nat
  /-- Where a line stands in the column. -/
  alignment : Text.Alignment
  deriving DecidableEq, Repr

/-- The characters that draw one horizontal line of a table. -/
structure Rule where
  left : Char
  line : Char
  cross : Char
  right : Char

def topRule : Rule := ⟨'┏', '━', '┳', '┓'⟩

def headRule : Rule := ⟨'┡', '━', '╇', '┩'⟩

def bottomRule : Rule := ⟨'└', '─', '┴', '┘'⟩

/-- The line that is drawn above, between or below the cells of columns of given widths. -/
def Rule.draw (r : Rule) (widths : List Nat) : List Char :=
  r.left :: Text.joinWith [r.cross] (widths.map fun w => List.replicate (w + 2) r.line) ++
    [r.right]

/-- The text that a cell is filled with; a missing value leaves it empty. -/
def cellSource (v : Value) : Except Failure String :=
  match v with
  | .null => .ok ""
  | v =>
      match v.asText? with
      | some s => .ok s
      | none => .error (.notRenderable v.typeName)

def rowSources : List Value → Except Failure (List String)
  | [] => .ok []
  | v :: rest => do
      let cell ← cellSource v
      let cells ← rowSources rest
      return cell :: cells

def tableSources : List (List Value) → Except Failure (List (List String))
  | [] => .ok []
  | row :: rest => do
      let cells ← rowSources row
      let rows ← tableSources rest
      return cells :: rows

/-- The shown texts of several cells. -/
def renderCells (d : Markup.Dialect) : List String → Except Failure (List (List Char))
  | [] => .ok []
  | s :: rest => do
      let cell ← Console.renderMarkup d s
      let cells ← renderCells d rest
      return cell :: cells

/-- The shown cells of a table column by column, given the columns and the rows. -/
def renderColumns (d : Markup.Dialect) :
    List Column → List (List String) → Except Failure (List (List (List Char)))
  | [], _ => .ok []
  | _ :: columns, rows => do
      let cells ← renderCells d (rows.map fun row => row.headD "")
      let others ← renderColumns d columns (rows.map List.tail)
      return cells :: others

/-- The width that a text asks for: that of its widest line.  Every line end counts here and
    tabs take no room, although a cell is broken at line feeds only. -/
def naturalWidth (s : List Char) : Nat :=
  (Text.splitLines s).foldl (fun w line => max w (Text.width line)) 0

/-- The width of a column with the given cells. -/
def columnWidth (c : Column) (cells : List (List Char)) : Nat :=
  cells.foldl (fun w cell => max w (naturalWidth cell)) (max c.least (naturalWidth c.header.toList))

/-- A line of a cell, brought to the width of its column.  Blank characters at the end of a
    line do not count where it is centred.  A joiner at the end takes in the first space
    behind it, which is then made up for. -/
def placeLine (alignment : Text.Alignment) (width : Nat) (line : List Char) : List Char :=
  let line := match alignment with
    | .left => line
    | _ => Text.trimEnd line
  let placed := Text.place alignment ' ' (Text.width line) width line
  placed ++ List.replicate (width - Text.width placed) ' '

/-- The lines of a cell in a column of a given width. -/
def cellLines (width : Nat) (cell : List Char) : List (List Char) :=
  (Console.displayLines cell).flatMap (Text.wrap width)

/-- One line of a row: the given lines of its cells between vertical lines. -/
def rowLine (edge : Char) (columns : List (Column × Nat)) (lines : List (List Char)) :
    List Char :=
  let cells := (columns.zip lines).map fun ((column, width), line) =>
    ' ' :: placeLine column.alignment width line ++ [' ']
  edge :: Text.joinWith [edge] cells ++ [edge]

/-- The lines of a row of cells. -/
def rowLines (edge : Char) (columns : List (Column × Nat)) (cells : List (List Char)) :
    List (List Char) :=
  let blocks := (columns.zip cells).map fun ((_, width), cell) => cellLines width cell
  let height := blocks.foldl (fun h block => max h block.length) 0
  (List.range height).map fun i => rowLine edge columns (blocks.map fun block => block.getD i [])

/-- The cells row by row, given `count` rows column by column. -/
def byRow (cells : List (List (List Char))) (count : Nat) : List (List (List Char)) :=
  (List.range count).map fun i => cells.map fun column => column.getD i []

/-- The width of a whole row: each column with a space on both sides, and the lines. -/
def tableWidth (widths : List Nat) : Nat :=
  widths.foldl (fun total w => total + w + 3) 1

/-- The title, centred above the table. -/
def titleLine (title : String) (widths : List Nat) : List Char :=
  placeLine .centre (tableWidth widths) title.toList

/-- All lines of a table, given its shown cells column by column. -/
def ruledLines (title : String) (columns : List Column) (cells : List (List (List Char)))
    (count : Nat) : List (List Char) :=
  let widths := (columns.zip cells).map fun (column, cells) => columnWidth column cells
  let columns := columns.zip widths
  titleLine title widths :: topRule.draw widths ::
    rowLines '┃' columns (columns.map fun c => c.1.header.toList) ++
    headRule.draw widths :: (byRow cells count).flatMap (rowLines '│' columns) ++
    [bottomRule.draw widths]

/-- Writes a ruled table to the console between two empty lines.  A cell that is neither
    text nor missing fails before anything is written; faulty markup in a cell fails after
    the first empty line, the cells being taken column by column. -/
def printRuled (host : Host) (title : String) (columns : List Column)
    (rows : List (List Value)) : Run Unit := do
  let sources ← Run.ofExcept (tableSources rows)
  Console.print host []
  let cells ← Run.ofExcept (renderColumns host.dialect columns sources)
  Run.each (fun line => Run.errLine (String.ofList line))
    (ruledLines title columns cells rows.length)
  Console.print host []

end NamedConstants.Table
