import TableLoad.Report.Basic
import TableLoad.Record.Prepared

/-! # Checking records

The issues of a record against a table, column by column: a missing cell, a clipped text, and at
most one error of the cell itself; then a warning for each cell past the last column.
-/
namespace TableLoad

inductive CheckError where
  | emptySchema
  | noRecords
  deriving DecidableEq, Repr

def CheckError.message : CheckError → String
  | emptySchema => "Schema has no columns"
  | noRecords => "No records to validate"

def Column.issue? (row : Nat) (column : Column) (cell : Cell) : Option Issue :=
  let issue (kind : IssueKind) (message : String) : Issue :=
    { row, column := column.name, kind, severity := .error, message }
  if cell.isNull then
    if column.refusesNull then
      some (issue .nullNotAllowed s!"column '{column.name}' does not accept NULL")
    else none
  else match cell.value column.type with
    | .error reason =>
      some (issue .typeMismatch
        s!"expected {column.type.name}, got {cell.kind}: {reason.message}")
    | .ok (.text s) =>
      match column.type.maxLength? with
      | some limit =>
        if limit < s.length then
          some { issue .lengthExceeded
              s!"text of {s.length} characters exceeds limit of {limit}" with
            fullLength? := some s.length }
        else none
      | none => none
    | .ok _ => none

def Truncation.issue (row : Nat) (column : Column) (t : Truncation) : Issue :=
  { row
    column := column.name
    kind := .lengthExceeded
    severity := .warning
    message := s!"text truncated from {t.fullLength} to {t.clippedLength} characters"
    fullLength? := some t.fullLength }

def Column.missingIssue (row position : Nat) (column : Column) : Issue :=
  { row
    column := column.name
    kind := .missingColumn
    severity := .error
    message := s!"no value for column '{column.name}' (position {position})" }

def Schema.unknownIssue (s : Schema) (row position : Nat) : Issue :=
  { row
    column := s!"#{position}"
    kind := .unknownColumn
    severity := .warning
    message := s!"value at position {position} has no column in table '{s.table}'" }

/-- The issues of one column, given its cell if the record has one. -/
def Column.issues (row position : Nat) (r : Record) (column : Column) : List Issue :=
  match r.cells[position]? with
  | none => [column.missingIssue row position]
  | some cell =>
    ((r.truncationAt? position).map (Truncation.issue row column)).toList ++
      (column.issue? row cell).toList

namespace Schema

def checkRecord (s : Schema) (row : Nat) (r : Record) : List Issue :=
  (s.columns.zipIdx.flatMap fun (column, position) => column.issues row position r) ++
    (List.range' s.columns.length (r.cells.length - s.columns.length)).map (s.unknownIssue row)

/-- The report of consecutive records, the first of which is row `offset`.  They stand in memory
after `offset` others, so their numbers are taken to fit a machine word. -/
def checkRows (s : Schema) (offset : Nat) (records : List Record) : Report :=
  ⟨(records.zipIdx offset).flatMap fun (r, row) => s.checkRecord row r, records.length⟩

def validate (s : Schema) (records : List Record) : Except CheckError Report :=
  if s.columns.isEmpty then .error .emptySchema
  else if records.isEmpty then .error .noRecords
  else .ok (s.checkRows 0 records)

end Schema

end TableLoad
