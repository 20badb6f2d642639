import TableLoad.Record.Basic
import TableLoad.Cell.Value
import TableLoad.Schema.Basic

/-! # Prepared rows

The values of a record in the order of the columns, or the first reason why the row cannot be
stored.
-/
namespace TableLoad

inductive RowFault where
  | missing (column : String)
  | misfit (column : String) (reason : Misfit)
  | null (column : String)
  | tooLong (column : String)
  deriving DecidableEq

def RowFault.message : RowFault → String
  | missing column => s!"no value for column '{column}'"
  | misfit column reason => s!"column '{column}': {reason.message}"
  | null column => s!"column '{column}' does not accept NULL"
  | tooLong column => s!"column '{column}': text longer than declared"

def ColumnType.isExceededBy (type : ColumnType) (s : String) : Bool :=
  type.maxLength?.any fun limit => limit < s.length

/-- The value that a column stores for a cell. -/
def Column.store (column : Column) (cell : Cell) : Except RowFault Value :=
  match cell.value column.type with
  | .error reason => .error (.misfit column.name reason)
  | .ok .null => if column.refusesNull then .error (.null column.name) else .ok .null
  | .ok (.text s) =>
    if column.type.isExceededBy s then .error (.tooLong column.name) else .ok (.text s)
  | .ok value => .ok value

/-- The values that the columns store for the cells; cells past the last column are not stored. -/
def storeCells : List Column → List Cell → Except RowFault (List Value)
  | [], _ => .ok []
  | column :: _, [] => .error (.missing column.name)
  | column :: columns, cell :: cells =>
    match column.store cell with
    | .error fault => .error fault
    | .ok value =>
      match storeCells columns cells with
      | .error fault => .error fault
      | .ok values => .ok (value :: values)

/-- The values of a record, one for each column. -/
def Schema.prepare (s : Schema) (r : Record) : Except RowFault (List Value) :=
  storeCells s.columns r.cells

end TableLoad
