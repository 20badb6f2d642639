import TableLoad.Schema.Column
import TableLoad.Text.Blank
import TableLoad.Text.Case
import TableLoad.Number.Numeral

/-! # Type names

The names that the dialects give to column types, in families, and the column type that a name
with its arguments stands for.
-/
namespace TableLoad
open Text Number

/-- Families of type names that are read alike. -/
inductive TypeFamily where
  | integer
  /-- Small integers; with the one argument 1 they are booleans. -/
  | tinyInt
  | serial
  | decimal
  | float
  /-- Text with an optional length. -/
  | char
  | text
  | boolean
  /-- Bits; one bit is a boolean. -/
  | bit
  | timestamp
  | enum
  | set
  deriving DecidableEq, Repr

def typeNames : List (String × TypeFamily) := [
  ("INT", .integer), ("INTEGER", .integer), ("BIGINT", .integer), ("SMALLINT", .integer),
  ("MEDIUMINT", .integer), ("INT2", .integer), ("INT4", .integer), ("INT8", .integer),
  ("TINYINT", .tinyInt),
  ("SERIAL", .serial), ("SERIAL4", .serial), ("SERIAL8", .serial), ("BIGSERIAL", .serial),
  ("SMALLSERIAL", .serial),
  ("DECIMAL", .decimal), ("DEC", .decimal), ("NUMERIC", .decimal), ("NUMBER", .decimal),
  ("MONEY", .decimal), ("SMALLMONEY", .decimal),
  ("REAL", .float), ("FLOAT", .float), ("FLOAT4", .float), ("FLOAT8", .float),
  ("DOUBLE", .float),
  ("VARCHAR", .char), ("CHAR", .char), ("CHARACTER", .char), ("NVARCHAR", .char),
  ("NCHAR", .char), ("VARCHAR2", .char), ("NVARCHAR2", .char),
  ("TEXT", .text), ("TINYTEXT", .text), ("MEDIUMTEXT", .text), ("LONGTEXT", .text),
  ("NTEXT", .text), ("CLOB", .text), ("STRING", .text),
  ("BOOLEAN", .boolean), ("BOOL", .boolean),
  ("BIT", .bit),
  ("TIMESTAMP", .timestamp), ("TIMESTAMPTZ", .timestamp), ("DATETIME", .timestamp),
  ("DATETIME2", .timestamp), ("SMALLDATETIME", .timestamp), ("DATETIMEOFFSET", .timestamp),
  ("DATE", .timestamp),
  ("ENUM", .enum), ("SET", .set)]

def TypeFamily.ofName? (name : String) : Option TypeFamily :=
  typeNames.lookup (String.ofList (uppercase name.toList))

inductive TypeFault where
  | unknown (name : String)
  | badArgument (argument name : String)
  | outOfRange (argument : Nat) (name : String)
  | moreThanTwo (name : String)
  | moreThanOne (name : String)
  | noMembers (name : String)
  deriving DecidableEq, Repr

def TypeFault.message : TypeFault → String
  | unknown name => s!"Unknown column type: '{name}'"
  | badArgument argument name => s!"invalid argument '{argument}' for type {name}"
  | outOfRange argument name => s!"argument {argument} out of range for type {name}"
  | moreThanTwo name => s!"type {name} takes at most two arguments"
  | moreThanOne name => s!"type {name} takes one length argument"
  | noMembers name => s!"type {name} needs at least one value"

/-- The column type that a type name with arguments stands for. -/
structure ResolvedType where
  type : ColumnType
  /-- The type counts up by itself. -/
  autoIncrement : Bool := false
  /-- Plain `TEXT`, which holds moments when its default is the current time. -/
  holdsDates : Bool := false
  deriving DecidableEq, Repr

namespace ResolvedType

/-- An argument as a number of 32 bits. -/
def number (name argument : String) : Except TypeFault Nat :=
  match natBelow? (2 ^ 32) (trimmed argument.toList) with
  | some n => .ok n
  | none => .error (.badArgument argument name)

def smallNumber (name argument : String) : Except TypeFault UInt16 :=
  match number name argument with
  | .ok n => if n < 2 ^ 16 then .ok n.toUInt16 else .error (.outOfRange n name)
  | .error fault => .error fault

def isOne (argument : String) : Bool := trim argument == "1"

def enumWidth (members : List String) : Nat :=
  (members.map String.length).foldl max 0

/-- All members with a comma between neighbours. -/
def setWidth (members : List String) : Nat :=
  members.foldr (fun member n => member.length + n) 0 + members.length - 1

def ofWidth (width : Nat) : ResolvedType := { type := .text (some (max width 1).toUInt32) }

def ofFamily (name : String) (args : List String) : TypeFamily → Except TypeFault ResolvedType
  | .integer => .ok { type := .integer }
  | .tinyInt =>
    match args with
    | [one] => .ok { type := if isOne one then .boolean else .integer }
    | _ => .ok { type := .integer }
  | .serial => .ok { type := .integer, autoIncrement := true }
  | .decimal =>
    match args with
    | [] => .ok { type := .decimal none }
    | [p] => do
      let digits ← smallNumber name p
      return { type := .decimal (some ⟨digits, 0⟩) }
    | [p, s] => do
      let digits ← smallNumber name p
      let scale ← smallNumber name s
      return { type := .decimal (some ⟨digits, scale⟩) }
    | _ => .error (.moreThanTwo name)
  | .float => .ok { type := .decimal none }
  | .char =>
    match args with
    | [] => .ok { type := .text none }
    | [n] =>
      if eqAsciiCaseless (trimmed n.toList) ['m', 'a', 'x'] then .ok { type := .text none }
      else do
        let limit ← number name n
        return { type := .text (some limit.toUInt32) }
    | _ => .error (.moreThanOne name)
  | .text =>
    .ok { type := .text none, holdsDates := eqAsciiCaseless name.toList ['t', 'e', 'x', 't'] }
  | .boolean => .ok { type := .boolean }
  | .bit =>
    match args with
    | [] => .ok { type := .boolean }
    | [one] => .ok { type := if isOne one then .boolean else .integer }
    | _ => .ok { type := .integer }
  | .timestamp => .ok { type := .timestamp }
  | .enum => if args.isEmpty then .error (.noMembers name) else .ok (ofWidth (enumWidth args))
  | .set => if args.isEmpty then .error (.noMembers name) else .ok (ofWidth (setWidth args))

def ofName (name : String) (args : List String) : Except TypeFault ResolvedType :=
  match TypeFamily.ofName? name with
  | some family => ofFamily name args family
  | none => .error (.unknown name)

end ResolvedType

end TableLoad
