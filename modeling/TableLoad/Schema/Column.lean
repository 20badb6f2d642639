import TableLoad.Text.Quoted

/-! # Columns

What a table says about one column, without the spelling of any dialect: its type, whether it
may be empty, its default and its part in the keys.
-/
namespace TableLoad

/-- The digits of an exact number: how many in all, and how many after the point. -/
structure Precision where
  digits : UInt16
  scale : UInt16
  deriving DecidableEq, Repr

inductive ColumnType where
  | integer
  /-- An exact number of the given precision, or an approximate number. -/
  | decimal (precision : Option Precision)
  /-- Text of at most the given count of characters, or of any length. -/
  | text (limit : Option UInt32)
  | boolean
  | timestamp
  deriving DecidableEq, Repr

namespace ColumnType

def maxLength? : ColumnType → Option Nat
  | text (some n) => some n.toNat
  | _ => none

def name : ColumnType → String
  | integer => "INTEGER"
  | decimal (some p) => s!"DECIMAL({p.digits},{p.scale})"
  | decimal none => "DECIMAL"
  | text (some n) => s!"TEXT({n})"
  | text none => "TEXT"
  | boolean => "BOOLEAN"
  | timestamp => "TIMESTAMP"

end ColumnType

inductive Default where
  | null
  /-- A numeral as written. -/
  | number (numeral : String)
  /-- The content of a string literal. -/
  | text (content : String)
  | boolean (value : Bool)
  /-- The time at which the row is stored. -/
  | currentTimestamp
  /-- Any other expression, as written. -/
  | expression (code : String)
  deriving DecidableEq, Repr

def Default.display : Default → String
  | null => "NULL"
  | number numeral => numeral
  | text content => Text.apostrophed content
  | boolean true => "TRUE"
  | boolean false => "FALSE"
  | currentTimestamp => "CURRENT_TIMESTAMP"
  | expression code => code

structure Column where
  name : String
  type : ColumnType
  nullable : Bool := true
  default? : Option Default := none
  isPrimaryKey : Bool := false
  isAutoIncrement : Bool := false
  isUnique : Bool := false
  deriving DecidableEq, Repr

namespace Column

def notNull (c : Column) : Column := { c with nullable := false }

/-- A key column is never empty. -/
def primaryKey (c : Column) : Column := { c with isPrimaryKey := true, nullable := false }

def autoIncrement (c : Column) : Column := { c with isAutoIncrement := true }

def unique (c : Column) : Column := { c with isUnique := true }

def withDefault (c : Column) (d : Default) : Column := { c with default? := some d }

/-- Whether an empty cell keeps its row out: the database itself fills an auto-increment column. -/
def refusesNull (c : Column) : Bool := !c.nullable && !c.isAutoIncrement

end Column

end TableLoad
