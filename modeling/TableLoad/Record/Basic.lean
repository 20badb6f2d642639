import TableLoad.Cell.Basic

/-! # Records

A row of a sheet, cell by cell in the order of the columns, and the same row after cleaning, with
a note of every text that was clipped.
-/
namespace TableLoad

abbrev Row := List Cell

/-- A text that was clipped to the length of its column. Lengths are in characters. -/
structure Truncation where
  position : Nat
  fullLength : Nat
  clippedLength : Nat
  deriving DecidableEq, Repr

structure Record where
  cells : List Cell
  truncations : List Truncation
  deriving DecidableEq

def Record.truncationAt? (r : Record) (position : Nat) : Option Truncation :=
  r.truncations.find? fun t => t.position == position

end TableLoad
