import TableLoad.Ddl.DefaultClause
import TableLoad.Schema.TypeName
import TableLoad.Text.Bytes

/-! # Entries of a table

The grammar of what stands between the commas of a table: columns with their constraints, the
primary key of the table, and other constraints, which are passed over.
-/
namespace TableLoad.Ddl
open Text

/-- A constraint of a column, as far as it matters. -/
inductive Constraint where
  | primaryKey
  | notNull
  | null
  | autoIncrement
  | unique
  /-- The default, and the text it was read from. -/
  | default (value : Default) (written : List Char)
  | check (code : List Char)
  | ignored
  deriving DecidableEq, Repr

structure ColumnEntry where
  name : String
  typeName : String
  arguments : List String
  constraints : List Constraint
  /-- The bytes from the start of the entry to the end of the statement. -/
  bytesLeft : Nat
  deriving DecidableEq, Repr

inductive Entry where
  | column (entry : ColumnEntry)
  | primaryKey (names : List String)
  | skipped
  deriving DecidableEq, Repr

/-- What happens to rows whose parent goes. -/
def referentialAction : Scan Unit :=
  (do keyword "SET"; gap; oneOf ["NULL", "DEFAULT"]) <|> phrase ["NO", "ACTION"] <|>
    keyword "CASCADE" <|> keyword "RESTRICT" <|>
    (do let _ ← (defaultValue : Scan Default))

def optionalEquals : Scan Unit := do
  let _ ← Scan.optional (do Scan.char '='; gap)

def constraintName : Scan Unit := do keyword "CONSTRAINT"; gap; let _ ← name; gap

/-- A group that a gap may precede, or nothing. -/
def optionalGroup : Scan Unit := do
  let _ ← Scan.optional (do gap; group)

/-- Constraints that change nothing in the column. -/
def ignoredConstraint : Scan Unit :=
  oneOf ["UNSIGNED", "SIGNED", "ZEROFILL"] <|>
  (do phrase ["CHARACTER", "SET"]; gap; optionalEquals; let _ ← name) <|>
  (do oneOf ["CHARSET", "COLLATE"]; gap; optionalEquals; let _ ← name) <|>
  (do keyword "COMMENT"; gap; let _ ← stringLiteral) <|>
  (do keyword "ON"; gap; oneOf ["UPDATE", "DELETE"]; gap; referentialAction) <|>
  (do keyword "REFERENCES"; gap; let _ ← qualifiedName; optionalGroup) <|>
  constraintName

def columnConstraint : Scan Constraint :=
  (do
    phrase ["PRIMARY", "KEY"]
    let _ ← Scan.optional (do gap; oneOf ["ASC", "DESC", "CLUSTERED", "NONCLUSTERED"])
    return .primaryKey) <|>
  (do phrase ["NOT", "NULL"]; return .notNull) <|>
  (do keyword "NULL"; return .null) <|>
  (do oneOf ["AUTO_INCREMENT", "AUTOINCREMENT"]; return .autoIncrement) <|>
  (do keyword "IDENTITY"; optionalGroup; return .autoIncrement) <|>
  (do
    keyword "UNIQUE"
    let _ ← Scan.optional (do gap; keyword "KEY")
    return .unique) <|>
  (do
    keyword "DEFAULT"
    gap
    let (written, value) ← Scan.consumed defaultValue
    return .default value written) <|>
  (do keyword "CHECK"; gap; return .check (← group)) <|>
  (do ignoredConstraint; return .ignored)

def comma : Scan Unit := do gap; Scan.char ','; gap

def typeArgument : Scan String := stringLiteral <|> numeral <|> word

def typeArguments : Scan (List String) := do
  Scan.char '('
  gap
  let args ← Scan.separated comma typeArgument
  gap
  Scan.char ')'
  return args

/-- A column: name, type, arguments and constraints.  Some types have two words, and those of
times may speak of time zones. -/
def columnEntry : Scan ColumnEntry := fun s =>
  (do
    let columnName ← name
    gap
    let typeName ← word
    let _ ← Scan.optional (do gap; oneOf ["PRECISION", "VARYING"])
    let args ← Scan.optional (do gap; typeArguments)
    let _ ← Scan.optional do
      gap
      oneOf ["WITHOUT", "WITH"]
      gap
      phrase ["TIME", "ZONE"]
    let constraints ← Scan.many (do gap; columnConstraint)
    return ⟨columnName, typeName, args.getD [], constraints, byteLength s⟩ : Scan ColumnEntry) s

/-- The parts of a text between commas. -/
def splitAtCommas : List Char → List (List Char)
  | [] => [[]]
  | c :: rest =>
    match splitAtCommas rest with
    | part :: parts => if c = ',' then [] :: part :: parts else (c :: part) :: parts
    | [] => [[c]]

/-- The names in the column list of a key; what follows a name is left out. -/
def keyColumns (list : List Char) : List String :=
  (splitAtCommas list).filterMap fun part => (name (trimmed part)).map Prod.fst

def tableKey : Scan Entry := do
  let _ ← Scan.optional constraintName
  phrase ["PRIMARY", "KEY"]
  gap
  let _ ← Scan.optional (do oneOf ["CLUSTERED", "NONCLUSTERED"]; gap)
  return .primaryKey (keyColumns (← group))

/-- The words that start other constraints of a table. -/
def constraintWords : List String :=
  ["UNIQUE", "KEY", "INDEX", "FULLTEXT", "SPATIAL", "FOREIGN", "CHECK"]

/-- A constraint of the table that is passed over. -/
def skippedConstraint : Scan Entry := do
  let _ ← Scan.optional constraintName
  oneOf constraintWords
  restOfEntry
  return .skipped

def atEntryEnd (s : List Char) : Bool :=
  match afterGap s with
  | c :: _ => c == ',' || c == ')'
  | [] => false

/-- A column of a known type that takes up the whole entry. -/
def wholeColumn : Scan Entry := fun s =>
  match columnEntry s with
  | some (entry, rest) =>
    if (TypeFamily.ofName? entry.typeName).isSome && atEntryEnd rest then
      some (.column entry, rest)
    else none
  | none => none

/-- One entry of a table.  A column may be named like a constraint, so an entry that reads as a
whole column is one. -/
def entry : Scan Entry :=
  wholeColumn <|> tableKey <|> skippedConstraint <|> (do return .column (← columnEntry))

end TableLoad.Ddl
