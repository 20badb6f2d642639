import TableLoad.Schema.Column
import TableLoad.Text.Blank
import TableLoad.Text.Case

/-! # Schemas

A table name and the columns in order.  `Schema.make` accepts the tables that a database can
create: named, with at least one column, no two columns of one name up to case, and at most one
auto-increment column, which is an integer and the whole primary key.
-/
namespace TableLoad
open Text

inductive SchemaFault where
  | missingTableName
  | noColumns
  | duplicateColumn (name : String)
  | secondAutoIncrement (first second : String)
  | autoIncrementNotKey (name : String)
  | autoIncrementNotOnlyKey (name : String)
  | autoIncrementNotInteger (name : String)
  deriving DecidableEq, Repr

def SchemaFault.message : SchemaFault → String
  | missingTableName => "missing table name"
  | noColumns => "empty column list"
  | duplicateColumn name => s!"duplicate column name '{name}'"
  | secondAutoIncrement first second =>
    s!"more than one auto-increment column ('{first}' and '{second}')"
  | autoIncrementNotKey name => s!"auto-increment column '{name}' must be the primary key"
  | autoIncrementNotOnlyKey name =>
    s!"auto-increment column '{name}' must be the only primary key column"
  | autoIncrementNotInteger name => s!"auto-increment column '{name}' must be an integer"

/-- A table: its name and its columns, in the order of the cells of a row. -/
structure Schema where
  table : String
  columns : List Column
  deriving DecidableEq, Repr

/-- The first column whose name in lower case stands among `seen` or before it in the list. -/
def firstDuplicate? (seen : List (List Char)) : List Column → Option Column
  | [] => none
  | c :: rest =>
    let key := lowercase c.name.toList
    if seen.contains key then some c else firstDuplicate? (key :: seen) rest

def autoIncrementFault? (columns : List Column) : Option SchemaFault :=
  match columns.filter Column.isAutoIncrement with
  | [] => none
  | [c] =>
    if !c.isPrimaryKey then some (.autoIncrementNotKey c.name)
    else if 1 < (columns.filter Column.isPrimaryKey).length then
      some (.autoIncrementNotOnlyKey c.name)
    else if c.type ≠ .integer then some (.autoIncrementNotInteger c.name)
    else none
  | a :: b :: _ => some (.secondAutoIncrement a.name b.name)

namespace Schema

/-- The table of the given name and columns, if a database can create it. -/
def make (table : String) (columns : List Column) : Except SchemaFault Schema :=
  if table.isEmpty then .error .missingTableName
  else if columns.isEmpty then .error .noColumns
  else match firstDuplicate? [] columns with
    | some c => .error (.duplicateColumn c.name)
    | none =>
      match autoIncrementFault? columns with
      | some fault => .error fault
      | none => .ok ⟨table, columns⟩

/-- The place of a column by its name, in which the case of ASCII letters does not count. -/
def position? (s : Schema) (name : String) : Option Nat :=
  s.columns.findIdx? fun c => eqAsciiCaseless c.name.toList name.toList

def column? (s : Schema) (name : String) : Option Column :=
  s.columns.find? fun c => eqAsciiCaseless c.name.toList name.toList

def primaryKey (s : Schema) : List Column := s.columns.filter Column.isPrimaryKey

def autoIncrement? (s : Schema) : Option Nat := s.columns.findIdx? Column.isAutoIncrement

def columnLine (c : Column) : String :=
  s!"  {c.name}: {c.type.name}" ++ (if c.nullable then " NULL" else " NOT NULL") ++
    (match c.default? with
      | some d => " DEFAULT " ++ d.display
      | none => "") ++
    (if c.isAutoIncrement then " AUTO_INCREMENT" else "") ++
    (if c.isUnique then " UNIQUE" else "")

def summary (s : Schema) : String :=
  let key := ", ".intercalate (s.primaryKey.map Column.name)
  "\n".intercalate
    ([s!"Table: {s.table}", s!"Columns: {s.columns.length}", s!"Primary key: {key}", ""] ++
      s.columns.map columnLine)

/-- The table that is used when none is given. -/
def cadastro : Schema where
  table := "cadastro"
  columns := [
    Column.autoIncrement (Column.primaryKey { name := "id", type := .integer }),
    Column.notNull { name := "nome", type := .text (some 255) },
    { name := "email", type := .text (some 100) },
    { name := "telefone", type := .text (some 20) },
    { name := "cidade", type := .text (some 100) },
    { name := "ativo", type := .boolean, default? := some (.boolean true) },
    { name := "created_at", type := .timestamp, default? := some .currentTimestamp }]

end Schema

end TableLoad
