import TableLoad.Conversion
import TableLoad.Report.Document
import TableLoad.Text.Padding

/-! # Listings

What a conversion prints: the issues of the rows and the output for each dialect, as a table or as
a document.
-/
namespace TableLoad
open Sql Text

/-- The scripts that were written: their dialects and paths. -/
abbrev Written := List (Dialect × String)

def Issue.tableLine (i : Issue) : String :=
  s!"    row {padLeft 5 (toString i.row)}  {padRight 16 i.column} {i.kind.name} {i.message}"

def Report.tableLines (r : Report) : List String :=
  let s := r.summary
  ["Validation", s!"  Rows: {s.totalRows} ({s.validRows} valid, {s.blockedRows} blocked)"] ++
    if r.isClean then ["  No issues"]
    else s!"  Issues: {s.errors} errors, {s.warnings} warnings" :: r.issues.map Issue.tableLine

def outputLine (written : Written) (d : Dialect) : Except GenerateError Generated → String
  | .ok g =>
    let target := (written.lookup d).getD "(dry run)"
    s!"  ✓ {padRight 11 d.title} {g.rowCount} rows, {g.inserts.length + 1} statements → {target}"
  | .error e => s!"  ✗ {padRight 11 d.title} {e.message}"

def outputJson (written : Written) (d : Dialect) : Except GenerateError Generated → Json
  | .ok g => .object [
      ("dialect", .string d.slug),
      ("file", Json.ofOption .string (written.lookup d)),
      ("rows", Json.ofNat g.rowCount),
      ("skipped_rows", Json.ofNats g.skippedRows)]
  | .error e => .object [("dialect", .string d.slug), ("error", .string e.message)]

namespace Conversion

def table (c : Conversion) (written : Written) : List String :=
  c.report.tableLines ++ ["", "Output"] ++
    c.outputs.map fun (d, output) => outputLine written d output

def toJson (c : Conversion) (written : Written) : Json := .object [
  ("issues", .array (c.report.issues.map Issue.toJson)),
  ("outputs", .array (c.outputs.map fun (d, output) => outputJson written d output)),
  ("summary", c.report.summary.toJson)]

end Conversion

def dialectTable : List String :=
  "Supported dialects" :: Dialect.all.map fun d =>
    s!"  {padRight 11 d.title} {padRight 11 d.slug} {d.address}"

/-- Lines, each with its end. -/
def lines (texts : List String) : String := String.join (texts.map (· ++ "\n"))

end TableLoad
