import TableLoad.Ddl.Entry
import TableLoad.Ddl.Resolve

/-! # Reading a statement

One `CREATE TABLE` statement, read from end to end into a schema.  An error tells the byte position
at which the statement stops making sense.
-/
namespace TableLoad.Ddl
open Text

/-- The statement up to the name of the table. -/
def header : Scan String := do
  gap
  keyword "CREATE"
  gap
  let _ ← Scan.optional (do oneOf ["TEMPORARY", "TEMP"]; gap)
  keyword "TABLE"
  gap
  let _ ← Scan.optional (do phrase ["IF", "NOT", "EXISTS"]; gap)
  qualifiedName

/-- What follows the options after the table: an optional semicolon and a gap. -/
def afterOptions (s : List Char) : List Char :=
  match s.dropWhile (· != ';') with
  | _ :: rest => afterGap rest
  | [] => []

/-- The entries in parentheses and what follows the statement; or what is left where a parenthesis
is missing. -/
def body (s : List Char) : Except (List Char) (List Entry × List Char) :=
  match afterGap s with
  | '(' :: inner =>
    match Scan.separated comma entry (afterGap inner) with
    | some (entries, rest) =>
      match afterGap rest with
      | ')' :: rest => .ok (entries, afterOptions rest)
      | rest => .error rest
    | none => .error (afterGap inner)
  | rest => .error rest

def schemaOf (s : List Char) : Except DdlError Schema :=
  match imbalance? 0 .plain s with
  | some (kind, rest) => .error (.at s rest (.imbalance kind))
  | none =>
    match header s with
    | none => .error (.malformed 0 .notCreateTable)
    | some (table, rest) =>
      match body rest with
      | .error rest => .error (.at s rest (.unexpectedInput (String.ofList (snippet rest))))
      | .ok (entries, []) => resolve (byteLength s) table entries
      | .ok (_, rest) => .error (.at s rest (.unexpectedContent (String.ofList (snippet rest))))

/-- The schema that a `CREATE TABLE` statement describes. -/
def parse (statement : String) : Except DdlError Schema := schemaOf statement.toList

end TableLoad.Ddl
