import TableLoad.Sql.CreateTable
import TableLoad.Sql.Insert
import TableLoad.Record.Prepared
import TableLoad.Report.Basic

/-! # Scripts

What is generated for one dialect: the statement that creates the table, the statements that fill
it, and a script that puts them between settings.  Rows that the report blocks, or that cannot be
prepared, are left out and listed.
-/
namespace TableLoad.Sql

inductive GenerateError where
  | unsupportedDialect (name : String)
  | emptySchema
  | batchSize (size : Nat)
  deriving DecidableEq, Repr

def GenerateError.message : GenerateError → String
  | unsupportedDialect name =>
    s!"Unsupported dialect: '{name}'. Expected: mysql, postgresql, sqlite or sqlserver"
  | emptySchema => "Cannot generate SQL for a schema without columns"
  | batchSize size => s!"Invalid batch size {size}: must be at least 1"

def Dialect.ofName (name : String) : Except GenerateError Dialect :=
  match Dialect.ofName? name with
  | some d => .ok d
  | none => .error (.unsupportedDialect name)

/-- The statements for one dialect, without semicolons. -/
structure Generated where
  dialect : Dialect
  table : String
  createTable : String
  inserts : List String
  rowCount : Nat
  skippedRows : List Nat
  deriving DecidableEq, Repr

/-- The rows that can be inserted, prepared, and the others by their places from `row` on. -/
def sortRows (s : Schema) (blocked : List Nat) (row : Nat) :
    List Record → List (List Value) × List Nat
  | [] => ([], [])
  | r :: rest =>
    let (rows, skipped) := sortRows s blocked (row + 1) rest
    if blocked.contains row then (rows, row :: skipped)
    else match s.prepare r with
      | .ok values => (values :: rows, skipped)
      | .error _ => (rows, row :: skipped)

/-- The statements of a dialect for the records of a table. -/
def generate (s : Schema) (records : List Record) (report : Report) (d : Dialect)
    (batchSize : Nat) : Except GenerateError Generated :=
  if s.columns.isEmpty then .error .emptySchema
  else if batchSize = 0 then .error (.batchSize batchSize)
  else
    let (rows, skipped) := sortRows s report.blockedRows 0 records
    .ok {
      dialect := d
      table := s.table
      createTable := d.createTableText s
      inserts := d.insertTexts s rows batchSize
      rowCount := rows.length
      skippedRows := skipped }

inductive Part where
  /-- Lines of the header, each with its end. -/
  | comment (line : String)
  | blank
  | statement (code : String)
  deriving DecidableEq, Repr

def Part.text : Part → String
  | comment line => "-- " ++ line ++ "\n"
  | blank => "\n"
  | statement code => code ++ ";\n"

def rule : Part := .comment ("".pushn '=' 60)

/-- An empty line, if there is something to set apart. -/
def blankFor (statements : List String) : List Part :=
  if statements.isEmpty then [] else [.blank]

namespace Generated

/-- The header of a script. `source?` is where the rows come from, `stamp` the time of writing. -/
def header (g : Generated) (source? : Option String) (stamp : String) : List Part :=
  [rule, .comment s!"{g.dialect.title} script for table {g.table}"] ++
    (source?.map fun source => Part.comment ("Source: " ++ source)).toList ++
    [.comment s!"Records: {g.rowCount} written, {g.skippedRows.length} skipped",
      .comment ("Generated: " ++ stamp), rule, .blank]

def parts (g : Generated) (source? : Option String) (stamp : String) : List Part :=
  g.header source? stamp ++
    g.dialect.preamble.map .statement ++ blankFor g.dialect.preamble ++
    [.statement g.createTable, .blank] ++
    g.inserts.map .statement ++
    blankFor g.dialect.footer ++ g.dialect.footer.map .statement

def script (g : Generated) (source? : Option String) (stamp : String) : String :=
  String.join ((g.parts source? stamp).map Part.text)

end Generated

end TableLoad.Sql
