import TableLoad.Json.Printer
import TableLoad.Record.Basic
import TableLoad.Schema.Headers

/-! # Rows from documents

A JSON document as the rows of a sheet.  A row is a list, cell by cell in the order of the columns,
or an object, whose keys are headers: each value goes to the column of its key, and those without
a column follow the last column, in the order of keys.
-/
namespace TableLoad

inductive RowsFault where
  | notList
  | notRow (row : Nat) (found : Json)
  | notCell (row : Nat)
  | notCellAt (row : Nat) (key : String)

def cellFault : String :=
  "unsupported cell value: data did not match any variant of untagged enum CellValue"

def RowsFault.message : RowsFault → String
  | notList => "expected a JSON array of rows"
  | notRow row found => s!"row {row}: expected an array or object, got {found.compact}"
  | notCell row => s!"row {row}: {cellFault}"
  | notCellAt row key => s!"row {row}, key '{key}': {cellFault}"

def Cell.ofJson? : Json → Option Cell
  | .null => some .null
  | .bool b => some (.boolean b)
  | .integer i => some (.number (.ofInt i))
  | .float x => some (.number x)
  | .string s => some (.text s)
  | _ => none

/-- The cell sent to a place; a place to which none is sent is empty. -/
def cellAt (sent : List (Option Nat × Cell)) (position : Nat) : Cell :=
  (sent.lookup (some position)).getD .null

/-- The row of cells under headers: the cells with a column in the order of the columns, then the
others as they come. -/
def Schema.rowUnder (s : Schema) (cells : List (String × Cell)) : Row :=
  let sent := (s.matchHeaders (cells.map Prod.fst)).zip (cells.map Prod.snd)
  (List.range s.columns.length).map (cellAt sent) ++
    (sent.filter fun (slot, _) => slot.isNone).map Prod.snd

/-- The cells of a list. -/
def cellsOfItems (row : Nat) : List Json → Except RowsFault Row
  | [] => .ok []
  | item :: rest =>
    match Cell.ofJson? item with
    | none => .error (.notCell row)
    | some cell => (cellsOfItems row rest).map (cell :: ·)

def cellsOfMembers (row : Nat) : List (String × Json) → Except RowsFault (List (String × Cell))
  | [] => .ok []
  | (key, value) :: rest =>
    match Cell.ofJson? value with
    | none => .error (.notCellAt row key)
    | some cell => (cellsOfMembers row rest).map ((key, cell) :: ·)

namespace Schema

/-- One row; `row` is its place among all rows. -/
def rowOfJson (s : Schema) (row : Nat) : Json → Except RowsFault Row
  | .array items => cellsOfItems row items
  | .object members => (cellsOfMembers row members).map s.rowUnder
  | other => .error (.notRow row other)

/-- The rows of items, the first of which is row `row`. -/
def rowsOfItems (s : Schema) (row : Nat) : List Json → Except RowsFault (List Row)
  | [] => .ok []
  | item :: rest =>
    match s.rowOfJson row item with
    | .error fault => .error fault
    | .ok cells => (s.rowsOfItems (row + 1) rest).map (cells :: ·)

def rowsOfJson (s : Schema) : Json → Except RowsFault (List Row)
  | .array items => s.rowsOfItems 0 items
  | _ => .error .notList

end Schema

end TableLoad
