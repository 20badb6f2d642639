import TableLoad.Ddl.Token
import TableLoad.Schema.Column
import TableLoad.Text.Blank
import TableLoad.Text.Case

/-! # Default clauses

A default is a string, a numeral, an expression in parentheses, or a word with an optional
argument list.  Parentheses around a whole default do not count, whatever their depth.
-/
namespace TableLoad.Ddl
open Text

/-- The calls and words for the current time, without blanks and in upper case. -/
def clockWords : List String := [
  "CURRENT_TIMESTAMP", "LOCALTIMESTAMP", "NOW()", "GETDATE()", "GETUTCDATE()",
  "SYSDATETIME()", "SYSUTCDATETIME()", "DATETIME('NOW')", "DATETIME('NOW','LOCALTIME')"]

/-- Calls for the current time with any arguments, such as a count of digits. -/
def clockCalls : List String := ["CURRENT_TIMESTAMP(", "NOW("]

/-- The default that a word with an optional argument list stands for. -/
def wordDefault (shown : List Char) : Default :=
  let compact := String.ofList (uppercase (shown.filter fun c => !isBlank c))
  if compact == "NULL" then .null
  else if compact == "TRUE" then .boolean true
  else if compact == "FALSE" then .boolean false
  else if clockWords.contains compact then .currentTimestamp
  else if clockCalls.any fun call => call.toList.isPrefixOf compact.toList then .currentTimestamp
  else .expression (String.ofList (trimmed shown))

/-- A word with an optional argument list, as written. -/
def call : Scan (List Char) := do
  let (shown, _) ← Scan.consumed do
    let _ ← word
    Scan.optional (do gap; group)
  return shown

/-- A default that needs no look inside parentheses. -/
def plainDefault : Scan Default := fun s =>
  match stringLiteral s with
  | some (content, rest) => some (.text content, rest)
  | none => (numeral s).map fun (shown, rest) => (.number shown, rest)

/-- A default.  What stands in parentheses is a default if it is one from end to end, and an
expression otherwise. -/
def defaultValue (s : List Char) : Option (Default × List Char) :=
  match plainDefault s with
  | some result => some result
  | none =>
    match _h : group s with
    | some (inner, rest) =>
      let body := trimmed inner
      match defaultValue body with
      | some (value, last) =>
        if (afterGap last).isEmpty then some (value, rest)
        else some (.expression (String.ofList ('(' :: (body ++ [')']))), rest)
      | none => some (.expression (String.ofList ('(' :: (body ++ [')']))), rest)
    | none => (call s).map fun (shown, rest) => (wordDefault shown, rest)
termination_by s.length
decreasing_by
  have := trimmed_length_le inner
  have := group_length _h
  omega

end TableLoad.Ddl
