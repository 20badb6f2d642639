/-! # Issues

One thing wrong with one cell of one row.  An error keeps the row out of the output, a warning
does not.
-/
namespace TableLoad

/-- What is wrong, in the order in which kinds are listed. -/
inductive IssueKind where
  /-- The row has no cell for the column. -/
  | missingColumn
  /-- The cell has no value of the type of the column. -/
  | typeMismatch
  /-- The text was clipped, or is still too long. -/
  | lengthExceeded
  /-- The cell is empty and the column may not be. -/
  | nullNotAllowed
  /-- The cell is past the last column. -/
  | unknownColumn
  deriving DecidableEq, Repr

namespace IssueKind

def all : List IssueKind :=
  [missingColumn, typeMismatch, lengthExceeded, nullNotAllowed, unknownColumn]

def name : IssueKind → String
  | missingColumn => "MissingColumn"
  | typeMismatch => "TypeMismatch"
  | lengthExceeded => "LengthExceeded"
  | nullNotAllowed => "NullNotAllowed"
  | unknownColumn => "UnknownColumn"

end IssueKind

inductive Severity where
  | warning
  | error
  deriving DecidableEq, Repr

def Severity.name : Severity → String
  | warning => "warning"
  | error => "error"

structure Issue where
  row : Nat
  column : String
  kind : IssueKind
  severity : Severity
  message : String
  /-- The length of a text that was or is too long. -/
  fullLength? : Option Nat := none
  deriving DecidableEq, Repr

namespace Issue

/-- Whether the issue keeps its row out. -/
def blocks (i : Issue) : Bool := i.severity == .error

def display (i : Issue) : String :=
  s!"row {i.row} [{i.column}] {i.kind.name} ({i.severity.name}): {i.message}"

end Issue

end TableLoad
