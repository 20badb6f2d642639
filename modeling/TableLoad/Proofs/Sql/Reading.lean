import TableLoad.Sql.Insert
import TableLoad.Proofs.Calendar.Spelling

/-! # How a database reads rows

The grammar of the statements that insert rows, as each dialect reads it: names between marks,
strings between apostrophes, bare words, and lists in parentheses.  Inside marks a closing mark is
written twice; inside strings an apostrophe is, and in MySQL a backslash.  What a column makes of a
literal depends on its type.
-/
namespace TableLoad.Sql.Reading
open Text Number Calendar

/-- The text up to a last mark that stands alone, and what follows the mark.  A special character
stands for itself when it is doubled, and for nothing when it is not. -/
def undoubled? (special : List Char) (last : Char) : List Char → Option (List Char × List Char)
  | [] => none
  | [c] => if c = last then some ([], []) else none
  | c :: d :: rest =>
    if c ∈ special then
      if c = d then (undoubled? special last rest).map fun (s, t) => (c :: s, t)
      else if c = last then some ([], d :: rest) else none
    else (undoubled? special last (d :: rest)).map fun (s, t) => (c :: s, t)

def enclosedTail (special : List Char) (last : Char) : Scan String := fun s =>
  (undoubled? special last s).map fun (shown, rest) => (String.ofList shown, rest)

def nameMarks : Dialect → Char × Char
  | .mysql => ('\x60', '\x60')
  | .postgresql => ('"', '"')
  | .sqlite => ('"', '"')
  | .sqlserver => ('[', ']')

def name (d : Dialect) : Scan String := do
  Scan.char (nameMarks d).1
  enclosedTail [(nameMarks d).2] (nameMarks d).2

/-- What a string between apostrophes writes twice. -/
def stringSpecials : Dialect → List Char
  | .mysql => ['\'', '\\']
  | .postgresql => ['\'']
  | .sqlite => ['\'']
  | .sqlserver => ['\'']

def stringMark : Dialect → Scan Unit
  | .sqlserver => do let _ ← Scan.optional (Scan.char 'N')
  | _ => pure ()

def string (d : Dialect) : Scan String := do
  stringMark d
  Scan.char '\''
  enclosedTail (stringSpecials d) '\''

/-- A character of a keyword or a numeral. -/
def isBareChar (c : Char) : Bool := c.isAlphanum || c == '-' || c == '.'

/-- A literal before its column is known. -/
inductive Literal where
  /-- A keyword or a numeral. -/
  | bare (shown : String)
  | string (content : String)
  deriving DecidableEq, Repr

def literal (d : Dialect) : Scan Literal :=
  (do return .string (← string d)) <|>
    (do return .bare (String.ofList (← Scan.some1 isBareChar)))

def blanks : Scan Unit := fun s => some ((), s.dropWhile fun c => c == ' ' || c == '\n')

def comma : Scan Unit := do blanks; Scan.char ','; blanks

def list {α : Type} (item : Scan α) : Scan (List α) := do
  Scan.char '('
  blanks
  let items ← Scan.separated comma item
  blanks
  Scan.char ')'
  return items

def exactly (shown : List Char) : Scan Unit := fun s =>
  if shown.isPrefixOf s then some ((), s.drop shown.length) else none

inductive Statement where
  | toggle (table : String) (on : Bool)
  | insert (table : String) (columns : List String) (tuples : List (List Literal))
  deriving DecidableEq, Repr

def insertStatement (d : Dialect) : Scan Statement := do
  exactly "INSERT INTO".toList
  blanks
  let table ← name d
  blanks
  let columns ← list (name d)
  blanks
  exactly "VALUES".toList
  blanks
  let tuples ← Scan.separated comma (list (literal d))
  Scan.atEnd
  return .insert table columns tuples

def toggleStatement (d : Dialect) : Scan Statement := do
  exactly "SET IDENTITY_INSERT".toList
  blanks
  let table ← name d
  blanks
  let on ← (do exactly "ON".toList; return true) <|> (do exactly "OFF".toList; return false)
  Scan.atEnd
  return .toggle table on

def statement? (d : Dialect) (text : String) : Option Statement :=
  ((insertStatement d <|> toggleStatement d : Scan Statement) text.toList).map Prod.fst

/-- What a column holds, as far as it can be told from a statement. -/
inductive Datum where
  | null
  | integer (value : Int)
  | numeral (shown : String)
  | text (content : String)
  | boolean (value : Bool)
  | moment (fields : Fields)
  deriving DecidableEq, Repr

def truth? (d : Dialect) (shown : String) : Option Bool :=
  match d with
  | .postgresql => if shown = "TRUE" then some true else if shown = "FALSE" then some false else none
  | _ => if shown = "1" then some true else if shown = "0" then some false else none

def datum? (d : Dialect) (type : ColumnType) : Literal → Option Datum
  | .bare shown =>
    if shown = "NULL" then some .null
    else match type with
      | .integer => (int? shown.toList).map .integer
      | .decimal _ => some (.numeral shown)
      | .boolean => (truth? d shown).map .boolean
      | _ => none
  | .string content =>
    match type with
    | .text _ => some (.text content)
    | .timestamp =>
      ((yearFirst ++ Piece.blanks :: toSecond).fields? {} content.toList).map .moment
    | .integer | .decimal _ | .boolean => none

/-- What the columns of a table get from a tuple.  An auto-increment column that is not named gets
nothing, and no other column may be left out. -/
def rowOf (d : Dialect) (s : Schema) (columns : List String) (tuple : List Literal) :
    List (Option Datum) :=
  s.columns.map fun c =>
    match (columns.zip tuple).lookup c.name with
    | some literal => datum? d c.type literal
    | none => if c.isAutoIncrement then some .null else none

def rowsOf (d : Dialect) (s : Schema) : Statement → List (List (Option Datum))
  | .toggle _ _ => []
  | .insert _ columns tuples => tuples.map (rowOf d s columns)

/-- The rows that statements add to a table, one after the other. -/
def readRows (d : Dialect) (s : Schema) (texts : List String) : List (List (Option Datum)) :=
  texts.flatMap fun text => ((statement? d text).map (rowsOf d s)).getD []

end TableLoad.Sql.Reading

namespace TableLoad
open Sql.Reading

/-- A value as a statement can show it, in a column of the given type. -/
def Value.datum (type : ColumnType) : Value → Datum
  | .null => .null
  | .integer i => .integer i
  | .decimal n =>
    .numeral (match type with
      | .decimal (some p) => n.fixedText p.scale.toNat
      | _ => n.text)
  | .text s => .text s
  | .boolean b => .boolean b
  | .timestamp m => .moment m.toSecond

def Schema.data (s : Schema) (row : List Value) : List Datum :=
  List.zipWith (fun c v => v.datum c.type) s.columns row

end TableLoad
