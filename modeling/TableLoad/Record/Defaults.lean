import TableLoad.Record.Cleaning
import TableLoad.Calendar.Moment

/-! # Filling defaults

Empty cells take the default of their column, where it is a value that a cell can hold.  The
database fills auto-increment columns and defaults that are expressions.
-/
namespace TableLoad
open Number Calendar

def Default.cell? (now : Moment) (type : ColumnType) : Default → Option Cell
  | .null => none
  | .expression _ => none
  | .currentTimestamp => some (.text now.text)
  | .boolean b => some (.boolean b)
  | .number numeral =>
    match type with
    | .boolean => (truth? numeral).map .boolean
    | .integer | .decimal _ => (decimal? numeral.toList).map .number
    | _ => some (.text numeral)
  | .text content =>
    match type with
    | .boolean => (truth? content).map .boolean
    | _ => some (.text content)

def Column.fill (now : Moment) (column : Column) (cell : Cell) : Cell :=
  if cell.isNull && !column.isAutoIncrement then
    (column.default?.bind (Default.cell? now column.type)).getD .null
  else cell

def fillCells (now : Moment) : List Column → List Cell → List Cell
  | column :: columns, cell :: cells => column.fill now cell :: fillCells now columns cells
  | [], cells => cells
  | _, [] => []

/-- A record with its empty cells filled; the notes of clips stay. -/
def Schema.fillDefaults (s : Schema) (now : Moment) (r : Record) : Record :=
  { r with cells := fillCells now s.columns r.cells }

end TableLoad
