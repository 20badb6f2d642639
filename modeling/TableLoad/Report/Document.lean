import TableLoad.Json.Basic
import TableLoad.Report.Basic

/-! # Reports as documents

Issues and counts as JSON documents, their members in the order of keys.
-/
namespace TableLoad

def Severity.title : Severity → String
  | warning => "Warning"
  | error => "Error"

/-- An issue; it has a length only if the issue is about one. -/
def Issue.toJson (i : Issue) : Json := .object ([
  ("column_name", .string i.column),
  ("kind", .string i.kind.name),
  ("message", .string i.message)] ++
  (i.fullLength?.map fun n => ("original_length", Json.ofNat n)).toList ++ [
  ("row_index", Json.ofNat i.row),
  ("severity", .string i.severity.title)])

def Summary.toJson (s : Summary) : Json := .object [
  ("blocked_rows", Json.ofNat s.blockedRows),
  ("by_kind", .object (s.byKind.foldr
    (fun (kind, count) => Json.insertMember kind.name (Json.ofNat count)) [])),
  ("errors", Json.ofNat s.errors),
  ("total_rows", Json.ofNat s.totalRows),
  ("valid_rows", Json.ofNat s.validRows),
  ("warnings", Json.ofNat s.warnings)]

end TableLoad
