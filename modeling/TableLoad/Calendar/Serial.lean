import TableLoad.Calendar.Moment
import TableLoad.Number.Binary64

/-! # Spreadsheet dates

A spreadsheet keeps a moment as a count of days, with a fraction for the time of day, from
30 December 1899.  The count is scaled to milliseconds as a number and then rounded, halves up.
-/
namespace TableLoad.Calendar
open Number

def millisecondsPerDay : Nat := 86400000

/-- 30 December 1899, in days after 1 March of the year 0. -/
def serialEpoch : Nat := 693899

/-- The first serial past 31 December 9999. -/
def serialLimit : Nat := 2958466

def Moment.ofSerialMilliseconds? (milliseconds : Nat) : Option Moment :=
  let rest := milliseconds % millisecondsPerDay
  match Date.ofDayNumber? (serialEpoch + milliseconds / millisecondsPerDay),
    Time.ofFields? (rest / 3600000) (rest / 60000 % 60) (rest / 1000 % 60)
      (rest % 1000 * 10 ^ 6) with
  | some date, some time => some ⟨date, time⟩
  | _, _ => none

/-- The integer nearest to the size of a finite number, halves up. -/
def nearestUp? : Binary64 → Option Nat
  | .finite _ units _ => some (roundDiv .up units unitsPerOne)
  | _ => none

/-- Milliseconds of a positive serial given in units: the product is rounded to a number, the
number to an integer. -/
def serialMilliseconds? (units : Nat) : Option Nat :=
  nearestUp? (Binary64.ofRatio false (units * millisecondsPerDay) unitsPerOne)

/-- The moment of a spreadsheet serial, which must be positive and before the year 10000. -/
def Moment.ofSerial? : Binary64 → Option Moment
  | .finite false units _ =>
    if 0 < units && units < serialLimit * unitsPerOne then
      (serialMilliseconds? units).bind Moment.ofSerialMilliseconds?
    else none
  | _ => none

end TableLoad.Calendar
