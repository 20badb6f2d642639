import TableLoad.Sql.Dialect
import TableLoad.Schema.Column

/-! # Spelling types

How each dialect writes a column type, an auto-increment column and the current time.
-/
namespace TableLoad.Sql

def withPrecision (name : String) (p : Precision) : String :=
  s!"{name}({p.digits},{p.scale})"

def Dialect.typeText (d : Dialect) (type : ColumnType) : String :=
  match type, d with
  | .integer, .mysql | .integer, .sqlserver => "INT"
  | .integer, .postgresql | .integer, .sqlite => "INTEGER"
  | .decimal (some p), .mysql | .decimal (some p), .sqlserver => withPrecision "DECIMAL" p
  | .decimal (some p), .postgresql | .decimal (some p), .sqlite => withPrecision "NUMERIC" p
  | .decimal none, .mysql => "DOUBLE"
  | .decimal none, .postgresql => "DOUBLE PRECISION"
  | .decimal none, .sqlite => "REAL"
  | .decimal none, .sqlserver => "FLOAT"
  | .text (some n), _ => s!"VARCHAR({n})"
  | .text none, .sqlserver => "VARCHAR(MAX)"
  | .text none, _ => "TEXT"
  | .boolean, .mysql => "TINYINT(1)"
  | .boolean, .postgresql => "BOOLEAN"
  | .boolean, .sqlite => "INTEGER"
  | .boolean, .sqlserver => "BIT"
  | .timestamp, .mysql | .timestamp, .sqlite => "DATETIME"
  | .timestamp, .postgresql => "TIMESTAMP"
  | .timestamp, .sqlserver => "DATETIME2"

def Dialect.autoIncrementType (d : Dialect) (type : ColumnType) : String :=
  match d with
  | .mysql | .sqlite => d.typeText type
  | .postgresql => "SERIAL"
  | .sqlserver => d.typeText type ++ " IDENTITY(1,1)"

def Dialect.autoIncrementKeyword? : Dialect → Option String
  | .mysql => some "AUTO_INCREMENT"
  | .sqlite => some "AUTOINCREMENT"
  | _ => none

/-- The current time as the default of a column, where the type has a spelling of its own. -/
def Dialect.clock? (d : Dialect) (type : ColumnType) : Option String :=
  match type, d with
  | .timestamp, .mysql | .timestamp, .postgresql => some "CURRENT_TIMESTAMP"
  | .timestamp, .sqlite => some "(datetime('now'))"
  | .timestamp, .sqlserver => some "GETDATE()"
  | _, _ => none

end TableLoad.Sql
