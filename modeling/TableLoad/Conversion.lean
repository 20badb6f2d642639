import TableLoad.Sql.Script
import TableLoad.Record.Defaults
import TableLoad.Report.Check
import TableLoad.Ddl.Statement

/-! # Conversions

Rows cleaned, checked and written for every dialect asked for.  The rows may be shared out to
several workers in consecutive chunks; the result is put together in the order of the rows.
-/
namespace TableLoad
open Sql Calendar

/-- What happens to an empty cell of a column with a default. -/
inductive NullPolicy where
  /-- It stays empty. -/
  | strict
  /-- It takes the default before the row is checked. -/
  | applyDefaults
  deriving DecidableEq, Repr

def defaultBatchSize : Nat := 500

structure Options where
  dialects : List Dialect := Dialect.all
  batchSize : Nat := defaultBatchSize
  nullPolicy : NullPolicy := .strict
  deriving DecidableEq, Repr

/-- What comes out, one output for each dialect, in the order of dialects. -/
structure Conversion where
  records : List Record
  report : Report
  outputs : List (Dialect × Except GenerateError Generated)

namespace Conversion

def generated (c : Conversion) : List Generated :=
  c.outputs.filterMap fun (_, output) =>
    match output with
    | .ok g => some g
    | .error _ => none

def failures (c : Conversion) : List Dialect :=
  c.outputs.filterMap fun (d, output) =>
    match output with
    | .ok _ => none
    | .error _ => some d

end Conversion

namespace Schema

/-- A row cleaned, and filled if the policy asks for it at the time `now`. -/
def toRecord (s : Schema) (policy : NullPolicy) (now : Moment) (row : Row) : Record :=
  match policy with
  | .strict => s.clean row
  | .applyDefaults => s.fillDefaults now (s.clean row)

def outputs (s : Schema) (options : Options) (records : List Record) (report : Report) :
    List (Dialect × Except GenerateError Generated) :=
  (Dialect.all.filter options.dialects.contains).map fun d =>
    (d, generate s records report d options.batchSize)

/-- All rows converted in one go. -/
def convert (s : Schema) (options : Options) (now : Moment) (rows : List Row) :
    Except CheckError Conversion :=
  if rows.isEmpty then .error .noRecords
  else
    let records := rows.map (s.toRecord options.nullPolicy now)
    match s.validate records with
    | .error e => .error e
    | .ok report => .ok ⟨records, report, s.outputs options records report⟩

/-- The records of one chunk and their report; the first row of the chunk is row `offset`. -/
def convertChunk (s : Schema) (policy : NullPolicy) (now : Moment) (offset : Nat)
    (chunk : List Row) : List Record × Report :=
  let records := chunk.map (s.toRecord policy now)
  (records, s.checkRows offset records)

/-- The chunks of all workers in order, from row `offset` on. -/
def convertChunks (s : Schema) (policy : NullPolicy) (now : Moment) (offset : Nat) :
    List (List Row) → List Record × Report
  | [] => ([], {})
  | chunk :: rest =>
    let (records, report) := s.convertChunk policy now offset chunk
    let (more, next) := s.convertChunks policy now (offset + chunk.length) rest
    (records ++ more, report.merge next)

/-- The rows of one of `jobs` workers, rounded up. -/
def chunkSize (rows jobs : Nat) : Nat := (rows + max jobs 1 - 1) / max jobs 1

/-- All rows converted by `jobs` workers. -/
def convertShared (s : Schema) (options : Options) (now : Moment) (rows : List Row) (jobs : Nat) :
    Except CheckError Conversion :=
  if rows.isEmpty then .error .noRecords
  else if s.columns.isEmpty then .error .emptySchema
  else
    let chunks := batches (chunkSize rows.length jobs) rows
    let (records, report) := s.convertChunks options.nullPolicy now 0 chunks
    .ok ⟨records, report, s.outputs options records report⟩

end Schema

end TableLoad
