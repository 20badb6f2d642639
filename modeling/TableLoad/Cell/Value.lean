import TableLoad.Cell.Basic
import TableLoad.Cell.Token
import TableLoad.Schema.Column
import TableLoad.Calendar.Spelling
import TableLoad.Calendar.Serial

/-! # Typed values

The value that a cell has in a column of a type, or the reason why it has none.  An empty cell has
the empty value in every column.
-/
namespace TableLoad
open Text Number Calendar

inductive Value where
  | null
  | integer (value : Int)
  | decimal (value : Binary64)
  | text (content : String)
  | boolean (value : Bool)
  | timestamp (value : Moment)
  deriving DecidableEq

/-- Why a cell has no value of a type. -/
inductive Misfit where
  | notWhole (n : Binary64)
  | notInteger (s : String)
  | notFinite (n : Binary64)
  | notNumber (s : String)
  | booleanAsDecimal
  | notZeroOrOne (n : Binary64)
  | notBoolean (s : String)
  | notMoment (s : String)
  | notSerial (n : Binary64)
  | booleanAsTimestamp
  deriving DecidableEq

def Misfit.message : Misfit → String
  | notWhole n => s!"number {n.text} is not a whole number"
  | notInteger s => s!"'{s}' is not an integer"
  | notFinite n => s!"number {n.text} is not finite"
  | notNumber s => s!"'{s}' is not a number"
  | booleanAsDecimal => "boolean cannot be stored as a decimal"
  | notZeroOrOne n => s!"number {n.text} is not a boolean (expected 0 or 1)"
  | notBoolean s => s!"'{s}' is not a boolean"
  | notMoment s => s!"'{s}' is not a date/time"
  | notSerial n => s!"number {n.text} is not a spreadsheet date"
  | booleanAsTimestamp => "boolean cannot be stored as a timestamp"

/-- The integer that a text stands for: digits are read exactly, other numerals as numbers. -/
def integer? (s : List Char) : Option Int :=
  match int64? s with
  | some i => some i
  | none => (decimal? s).bind wholeInteger?

namespace Cell

def integerValue : Cell → Except Misfit Value
  | null => .ok .null
  | number n => ((wholeInteger? n).map .integer).elim (.error (.notWhole n)) .ok
  | text s => ((integer? (trimmed s.toList)).map .integer).elim (.error (.notInteger s)) .ok
  | boolean b => .ok (.integer (if b then 1 else 0))

def decimalValue : Cell → Except Misfit Value
  | null => .ok .null
  | number n => if n.isFinite then .ok (.decimal n) else .error (.notFinite n)
  | text s => ((decimal? (trimmed s.toList)).map .decimal).elim (.error (.notNumber s)) .ok
  | boolean _ => .error .booleanAsDecimal

def textValue : Cell → Value
  | null => .null
  | number n => .text (numberText n)
  | text s => .text s
  | boolean b => .text (booleanText b)

def booleanValue : Cell → Except Misfit Value
  | null => .ok .null
  | number n =>
    if n.isNat 1 then .ok (.boolean true)
    else if n.isNat 0 then .ok (.boolean false)
    else .error (.notZeroOrOne n)
  | text s => ((truth? s).map .boolean).elim (.error (.notBoolean s)) .ok
  | boolean b => .ok (.boolean b)

def timestampValue : Cell → Except Misfit Value
  | null => .ok .null
  | number n => ((Moment.ofSerial? n).map .timestamp).elim (.error (.notSerial n)) .ok
  | text s => ((Moment.ofText? s).map .timestamp).elim (.error (.notMoment s)) .ok
  | boolean _ => .error .booleanAsTimestamp

/-- The value of a cell in a column of the given type. -/
def value (cell : Cell) : ColumnType → Except Misfit Value
  | .integer => cell.integerValue
  | .decimal _ => cell.decimalValue
  | .text _ => .ok cell.textValue
  | .boolean => cell.booleanValue
  | .timestamp => cell.timestampValue

end Cell

end TableLoad
