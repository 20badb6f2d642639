import TableLoad.Ddl.Balance
import TableLoad.Schema.Basic
import TableLoad.Schema.TypeName
import TableLoad.Text.Bytes

/-! # Errors of statements

Why a text is not the statement of a table, as causes; the wording stands in one place.
-/
namespace TableLoad.Ddl

inductive Reason where
  | imbalance (kind : Imbalance)
  | notCreateTable
  /-- Something else was expected where the snippet starts. -/
  | unexpectedInput (snippet : String)
  /-- The statement ended before the snippet. -/
  | unexpectedContent (snippet : String)
  | type (fault : TypeFault)
  | schema (fault : SchemaFault)
  | emptyKey
  | unknownKeyColumn (name : String)
  deriving DecidableEq, Repr

def Reason.message : Reason → String
  | imbalance .parentheses => "unbalanced parentheses"
  | imbalance .quote => "unterminated quote"
  | notCreateTable => "expected a CREATE TABLE statement"
  | unexpectedInput snippet => s!"unexpected input near '{snippet}'"
  | unexpectedContent snippet => s!"unexpected content after statement: '{snippet}'"
  | type fault => fault.message
  | schema fault => fault.message
  | emptyKey => "empty PRIMARY KEY column list"
  | unknownKeyColumn name => s!"PRIMARY KEY references unknown column '{name}'"

/-- Why a text gives no schema. -/
inductive DdlError where
  /-- The reason, and the byte position it was found at. -/
  | malformed (position : Nat) (reason : Reason)
  | unknownType (name : String)
  /-- More than one primary key; the names are joined by commas. -/
  | duplicatePrimaryKey (names : String)
  deriving DecidableEq, Repr

namespace DdlError

def message : DdlError → String
  | malformed position reason =>
    s!"Malformed CREATE TABLE at position {position}: {reason.message}"
  | unknownType name => (TypeFault.unknown name).message
  | duplicatePrimaryKey names => s!"Duplicate primary key declaration on column '{names}'"

/-- A fault of the type of a column that starts at a position. -/
def ofTypeFault (position : Nat) : TypeFault → DdlError
  | .unknown name => .unknownType name
  | fault => .malformed position (.type fault)

def ofSchemaFault (fault : SchemaFault) : DdlError := .malformed 0 (.schema fault)

/-- A reason found where the text `s` goes on with `rest`. -/
def «at» (s rest : List Char) (reason : Reason) : DdlError :=
  .malformed (Text.bytePosition s rest) reason

end DdlError

end TableLoad.Ddl
