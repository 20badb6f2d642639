import TableLoad.Sql.Dialect
import TableLoad.Schema.Basic
import TableLoad.Cell.Value

/-! # Inserting rows

Prepared rows in statements, in order.  Neighbouring rows that agree on whether the auto-increment
column is given form a run; a run is cut into batches, and a run without that column leaves it out.
Where values for the column have to be switched on, each run that gives them stands between
toggles.  Statements are data first and text last.
-/
namespace TableLoad.Sql

inductive Statement where
  /-- Switches values for the auto-increment column on or off. -/
  | toggle (on : Bool)
  /-- Rows with the columns at the given places. -/
  | insert (positions : List Nat) (rows : List (List Value))
  deriving DecidableEq

/-- Whether a row gives a value for the auto-increment column, if there is one. -/
def isExplicit (auto : Option Nat) (row : List Value) : Bool :=
  match auto with
  | some i => row[i]? != some .null
  | none => true

/-- Pieces of `limit + 1` items; the last may be shorter. -/
def piecesOf {α : Type} (limit : Nat) (items : List α) : List (List α) :=
  if items.length ≤ limit + 1 then if items.isEmpty then [] else [items]
  else items.take (limit + 1) :: piecesOf limit (items.drop (limit + 1))
termination_by items.length
decreasing_by simp only [List.length_drop]; omega

/-- Pieces of `size` items; a size of zero counts as one. -/
def batches {α : Type} (size : Nat) (items : List α) : List (List α) := piecesOf (size - 1) items

/-- Rows per statement: as asked, within the bound of the dialect, and at least one. -/
def Dialect.batchLimit (d : Dialect) (batchSize : Nat) : Nat :=
  max 1 (match d.maxRows? with
    | some most => min batchSize most
    | none => batchSize)

def insertPositions (s : Schema) (explicit : Bool) : List Nat :=
  (List.range s.columns.length).filter fun i => explicit || some i != s.autoIncrement?

def Dialect.runStatements (d : Dialect) (s : Schema) (limit : Nat) (run : List (List Value)) :
    List Statement :=
  let explicit := run.head?.any (isExplicit s.autoIncrement?)
  let inserts := (batches limit run).map (Statement.insert (insertPositions s explicit))
  if d.togglesIdentity && explicit && s.autoIncrement?.isSome then
    .toggle true :: (inserts ++ [.toggle false])
  else inserts

def Dialect.insertStatements (d : Dialect) (s : Schema) (rows : List (List Value))
    (batchSize : Nat) : List Statement :=
  let explicit := isExplicit s.autoIncrement?
  (rows.splitBy fun a b => explicit a == explicit b).flatMap
    (d.runStatements s (d.batchLimit batchSize))

def Dialect.literal (d : Dialect) (type : ColumnType) : Value → String
  | .null => "NULL"
  | .integer i => toString i
  | .decimal n =>
    match type with
    | .decimal (some p) => n.fixedText p.scale.toNat
    | _ => n.text
  | .text s => d.stringLiteral s
  | .boolean b => d.booleanLiteral b
  | .timestamp m => "'" ++ m.text ++ "'"

def Dialect.tupleText (d : Dialect) (s : Schema) (positions : List Nat) (row : List Value) :
    String :=
  let literals := positions.filterMap fun i =>
    match s.columns[i]?, row[i]? with
    | some c, some v => some (d.literal c.type v)
    | _, _ => none
  "(" ++ ", ".intercalate literals ++ ")"

def Dialect.statementText (d : Dialect) (s : Schema) : Statement → String
  | .toggle on => Dialect.identityToggle (d.quoteName s.table) on
  | .insert positions rows =>
    let names := positions.filterMap fun i => s.columns[i]?.map fun c => d.quoteName c.name
    "INSERT INTO " ++ d.quoteName s.table ++ " (" ++ ", ".intercalate names ++ ") VALUES\n" ++
      ",\n".intercalate (rows.map (d.tupleText s positions))

def Dialect.insertTexts (d : Dialect) (s : Schema) (rows : List (List Value)) (batchSize : Nat) :
    List String :=
  (d.insertStatements s rows batchSize).map (d.statementText s)

end TableLoad.Sql
