import TableLoad.Ddl.Entry
import TableLoad.Ddl.Error
import TableLoad.Cell.Token

/-! # From entries to a schema

A column takes its type from its type name and its flags from its constraints.  Some dialects
spell truth values as integers with a check, and moments as text with the current time as default;
both are recognised.  A table has one primary key, declared at a column or for the table.
-/
namespace TableLoad.Ddl
open Text

/-- A column with one more constraint. Keys and checks are looked at apart. -/
def constrain (column : Column) : Constraint → Column
  | .primaryKey => { column with isPrimaryKey := true }
  | .notNull => { column with nullable := false }
  | .null => { column with nullable := true }
  | .autoIncrement => { column with isAutoIncrement := true }
  | .unique => { column with isUnique := true }
  | .default value _ => { column with default? := some value }
  | .check _ => column
  | .ignored => column

/-- A text without blanks, in lower case. -/
def compact (s : List Char) : List Char := lowercase (s.filter fun c => !isBlank c)

/-- Characters that quote names, which a check may or may not have. -/
def isNameQuote (c : Char) : Bool := c == '"' || c == backtick || c == '[' || c == ']'

/-- Whether a check holds a column to the values 0 and 1. -/
def isTruthCheck (columnName : String) (code : List Char) : Bool :=
  let shown := compact (code.filter fun c => !isNameQuote c)
  let key := lowercase columnName.toList
  shown == key ++ "in(0,1)".toList || shown == key ++ "in(1,0)".toList

/-- Whether a default, as written, is the current time in the spelling of text columns. -/
def isTextClock (written : List Char) : Bool :=
  "datetime('now'".toList.isPrefixOf ((compact written).dropWhile (· == '('))

/-- The text of the default that counts, the last one. -/
def writtenDefault? (constraints : List Constraint) : Option (List Char) :=
  constraints.foldl (fun found c =>
    match c with
    | .default _ written => some written
    | _ => found) none

/-- A default of a column of truth values: a number or word for one becomes one. -/
def truthDefault : Default → Default
  | .number numeral => ((truth? numeral).map .boolean).getD (.number numeral)
  | .text content => ((truth? content).map .boolean).getD (.text content)
  | d => d

def promotedType (resolved : ResolvedType) (columnName : String)
    (constraints : List Constraint) : ColumnType :=
  let isTruth := constraints.any fun c =>
    match c with
    | .check code => isTruthCheck columnName code
    | _ => false
  let type := if resolved.type = .integer && isTruth then .boolean else resolved.type
  if resolved.holdsDates && (writtenDefault? constraints).any isTextClock then .timestamp
  else type

/-- Whether a key is declared at a column a second time, `inlineKey?` being the column that
declared one before. -/
def hasSecondKey (inlineKey? : Option String) (constraints : List Constraint) : Bool :=
  (if inlineKey?.isSome then 1 else 0) + constraints.count .primaryKey > 1 &&
    constraints.contains .primaryKey

/-- A column from its entry, in a statement of `total` bytes; and the column that declared the
primary key so far. -/
def resolveColumn (total : Nat) (inlineKey? : Option String) (e : ColumnEntry) :
    Except DdlError (Column × Option String) :=
  match ResolvedType.ofName e.typeName e.arguments with
  | .error fault => .error (.ofTypeFault (total - e.bytesLeft) fault)
  | .ok resolved =>
    if hasSecondKey inlineKey? e.constraints then .error (.duplicatePrimaryKey e.name)
    else
      let start : Column :=
        { name := e.name, type := resolved.type, isAutoIncrement := resolved.autoIncrement }
      let column := e.constraints.foldl constrain start
      let type := promotedType resolved e.name e.constraints
      .ok ({ column with
          type
          nullable := column.nullable && !column.isPrimaryKey
          default? := if type = .boolean then column.default?.map truthDefault
            else column.default? },
        if column.isPrimaryKey then some e.name else inlineKey?)

/-- What the entries of a table say together. -/
structure Gathered where
  columns : List Column := []
  inlineKey? : Option String := none
  tableKey? : Option (List String) := none
  deriving DecidableEq, Repr

/-- The entries in order, with what the earlier ones said. -/
def gather (total : Nat) (g : Gathered) : List Entry → Except DdlError Gathered
  | [] => .ok g
  | .column e :: rest =>
    match resolveColumn total g.inlineKey? e with
    | .error error => .error error
    | .ok (column, inlineKey?) =>
      gather total { g with columns := g.columns ++ [column], inlineKey? } rest
  | .primaryKey names :: rest =>
    if g.tableKey?.isSome then .error (.duplicatePrimaryKey (", ".intercalate names))
    else gather total { g with tableKey? := some names } rest
  | .skipped :: rest => gather total g rest

/-- The columns with the first one of the given name made a key column. -/
def markKey? (name : String) : List Column → Option (List Column)
  | [] => none
  | c :: rest =>
    if eqAsciiCaseless c.name.toList name.toList then some (c.primaryKey :: rest)
    else (markKey? name rest).map (c :: ·)

def markKeys (columns : List Column) : List String → Except DdlError (List Column)
  | [] => .ok columns
  | name :: names =>
    match markKey? name columns with
    | some columns => markKeys columns names
    | none => .error (.malformed 0 (.unknownKeyColumn name))

def Gathered.keyed (g : Gathered) : Except DdlError (List Column) :=
  match g.tableKey? with
  | none => .ok g.columns
  | some names =>
    match g.inlineKey? with
    | some name => .error (.duplicatePrimaryKey name)
    | none => if names.isEmpty then .error (.malformed 0 .emptyKey) else markKeys g.columns names

/-- The schema that the entries of a statement of `total` bytes describe. -/
def resolve (total : Nat) (table : String) (entries : List Entry) : Except DdlError Schema := do
  let g ← gather total {} entries
  if g.columns.isEmpty then .error (.ofSchemaFault .noColumns)
  else
    let columns ← g.keyed
    (Schema.make table columns).mapError .ofSchemaFault

end TableLoad.Ddl
