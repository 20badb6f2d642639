import TableLoad.Json.Basic
import TableLoad.Schema.Basic

/-! # Schemas as documents

A schema as a JSON document: the table name and the columns in order.
-/
namespace TableLoad

def ColumnType.toJson : ColumnType → Json
  | integer => .string "Integer"
  | decimal none => .object [("Decimal", .null)]
  | decimal (some p) => .object [("Decimal", Json.ofNats [p.digits.toNat, p.scale.toNat])]
  | text limit => .object [("Text", Json.ofOption (fun n => Json.ofNat n.toNat) limit)]
  | boolean => .string "Boolean"
  | timestamp => .string "Timestamp"

def Default.toJson : Default → Json
  | null => .string "Null"
  | number numeral => .object [("Number", .string numeral)]
  | text content => .object [("Text", .string content)]
  | boolean value => .object [("Boolean", .bool value)]
  | currentTimestamp => .string "CurrentTimestamp"
  | expression code => .object [("Expression", .string code)]

def Column.toJson (c : Column) : Json := .object [
  ("name", .string c.name),
  ("logical_type", c.type.toJson),
  ("nullable", .bool c.nullable),
  ("default", Json.ofOption Default.toJson c.default?),
  ("is_primary_key", .bool c.isPrimaryKey),
  ("is_auto_increment", .bool c.isAutoIncrement),
  ("is_unique", .bool c.isUnique)]

def Schema.toJson (s : Schema) : Json := .object [
  ("table_name", .string s.table),
  ("columns", .array (s.columns.map Column.toJson))]

end TableLoad
