import TableLoad.Sql.TypeSpelling
import TableLoad.Schema.Basic
import TableLoad.Cell.Token

/-! # Creating a table

The statement that creates a table in a dialect, one column a line.  A key of one column is marked
at the column, a longer one in a line of its own.
-/
namespace TableLoad.Sql

def Dialect.defaultText (d : Dialect) (type : ColumnType) : Default → String
  | .null => "NULL"
  | .boolean b => d.booleanLiteral b
  | .number numeral =>
    if type = .boolean then ((truth? numeral).map d.booleanLiteral).getD numeral else numeral
  | .text content =>
    if type = .boolean then ((truth? content).map d.booleanLiteral).getD content
    else d.stringLiteral content
  | .currentTimestamp => (d.clock? type).getD "CURRENT_TIMESTAMP"
  | .expression code => code

/-- The default clause of a column. The database fills an auto-increment column. -/
def Dialect.defaultClause (d : Dialect) (c : Column) : String :=
  match c.default? with
  | none => ""
  | some value =>
    if c.isAutoIncrement then ""
    else
      let code := d.defaultText c.type value
      " DEFAULT " ++
        if c.type = .text none ∧ value ≠ .null then d.unboundedTextDefault code else code

/-- One column. `composite` tells that the key has several columns. -/
def Dialect.columnText (d : Dialect) (composite : Bool) (c : Column) : String :=
  let name := d.quoteName c.name
  let isKey := c.isPrimaryKey && !composite
  name ++ " " ++
    (if c.isAutoIncrement then d.autoIncrementType c.type else d.typeText c.type) ++
    (if !c.nullable && !isKey then " NOT NULL" else "") ++
    d.defaultClause c ++
    (if c.isUnique && !isKey then " UNIQUE" else "") ++
    (if isKey then " PRIMARY KEY" else "") ++
    (if c.isAutoIncrement then (d.autoIncrementKeyword?.map (" " ++ ·)).getD "" else "") ++
    (if c.type = .boolean then ((d.truthCheck? name).map (" " ++ ·)).getD "" else "")

def Dialect.tableLines (d : Dialect) (s : Schema) : List String :=
  let composite := decide (1 < s.primaryKey.length)
  let key := ", ".intercalate (s.primaryKey.map fun c => d.quoteName c.name)
  s.columns.map (d.columnText composite) ++
    if composite then ["PRIMARY KEY (" ++ key ++ ")"] else []

/-- The statement that creates a table, without a semicolon. -/
def Dialect.createTableText (d : Dialect) (s : Schema) : String :=
  d.createTable ++ " " ++ d.quoteName s.table ++ " (\n" ++
    ",\n".intercalate ((d.tableLines s).map ("    " ++ ·)) ++ "\n)" ++ d.tableOptions

end TableLoad.Sql
