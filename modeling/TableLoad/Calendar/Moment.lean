import TableLoad.Number.Shortest

/-! # Dates and times of day

The Gregorian calendar extended to all years from -262143 to 262142, times of day down to the
nanosecond, and their text.  A second may be 60: a leap second is kept as written.
-/
namespace TableLoad.Calendar
open Number

/-- Years divisible by 4, but of the centuries only those divisible by 400. -/
def isLeapYear (year : Int) : Bool :=
  year % 4 == 0 && (year % 100 != 0 || year % 400 == 0)

def daysInMonth (year : Int) (month : Nat) : Nat :=
  match month with
  | 2 => if isLeapYear year then 29 else 28
  | 4 | 6 | 9 | 11 => 30
  | _ => 31

def IsDate (year : Int) (month day : Nat) : Prop :=
  (-262143 ≤ year ∧ year ≤ 262142) ∧ (1 ≤ month ∧ month ≤ 12) ∧
    1 ≤ day ∧ day ≤ daysInMonth year month

instance (year : Int) (month day : Nat) : Decidable (IsDate year month day) := by
  unfold IsDate; infer_instance

structure Date where
  year : Int
  month : Nat
  day : Nat
  isDate : IsDate year month day
  deriving DecidableEq

def Date.ofFields? (year : Int) (month day : Nat) : Option Date :=
  if h : IsDate year month day then some ⟨year, month, day, h⟩ else none

/-- The day that lies `n` days after 1 March of the year 0.  Years are counted from March, so that
a leap day ends its year, in cycles of 400 years. -/
def Date.ofDayNumber? (n : Nat) : Option Date :=
  let rest := n % 146097
  let years := (rest - rest / 1460 + rest / 36524 - rest / 146096) / 365
  let days := rest - (365 * years + years / 4 - years / 100)
  let months := (5 * days + 2) / 153
  let day := days - (153 * months + 2) / 5 + 1
  let month := if months < 10 then months + 3 else months - 9
  let year := years + 400 * (n / 146097) + if month ≤ 2 then 1 else 0
  Date.ofFields? year month day

def IsTime (hour minute second nanosecond : Nat) : Prop :=
  hour < 24 ∧ minute < 60 ∧ second ≤ 60 ∧ nanosecond < 10 ^ 9

instance (hour minute second nanosecond : Nat) :
    Decidable (IsTime hour minute second nanosecond) := by
  unfold IsTime; infer_instance

structure Time where
  hour : Nat
  minute : Nat
  second : Nat
  nanosecond : Nat
  isTime : IsTime hour minute second nanosecond
  deriving DecidableEq

def Time.ofFields? (hour minute second nanosecond : Nat) : Option Time :=
  if h : IsTime hour minute second nanosecond then some ⟨hour, minute, second, nanosecond, h⟩
  else none

/-- A day and a time of day, of no particular time zone. -/
structure Moment where
  date : Date
  time : Time
  deriving DecidableEq

/-- The text of a year: four digits, and a sign outside 0 to 9999. -/
def yearChars (year : Int) : List Char :=
  let size := padded 4 year.natAbs
  if year < 0 then '-' :: size else if 9999 < year then '+' :: size else size

/-- `YYYY-MM-DD`. -/
def Date.chars (d : Date) : List Char :=
  yearChars d.year ++ '-' :: (padded 2 d.month ++ '-' :: padded 2 d.day)

def Time.chars (t : Time) : List Char :=
  padded 2 t.hour ++ ':' :: (padded 2 t.minute ++ ':' :: padded 2 t.second)

/-- `YYYY-MM-DD HH:MM:SS`, the form of a literal. -/
def Moment.chars (m : Moment) : List Char := m.date.chars ++ ' ' :: m.time.chars

def Moment.text (m : Moment) : String := String.ofList m.chars

/-- The part of a second: nothing, or a point and the fewest of 3, 6 or 9 digits that are exact. -/
def fractionChars (nanosecond : Nat) : List Char :=
  if nanosecond = 0 then []
  else if nanosecond % 10 ^ 6 = 0 then '.' :: padded 3 (nanosecond / 10 ^ 6)
  else if nanosecond % 10 ^ 3 = 0 then '.' :: padded 6 (nanosecond / 10 ^ 3)
  else '.' :: padded 9 nanosecond

def Moment.preciseText (m : Moment) : String :=
  String.ofList (m.chars ++ fractionChars m.time.nanosecond)

end TableLoad.Calendar
