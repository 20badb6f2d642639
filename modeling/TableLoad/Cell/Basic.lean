import TableLoad.Number.Numeral

/-! # Cells

What a sheet holds in one place: nothing, a truth value, a number or a text.  Numbers are shown
the way a person types them, `11` rather than `11.0`.
-/
namespace TableLoad
open Number

inductive Cell where
  | null
  | boolean (value : Bool)
  | number (value : Binary64)
  | text (content : String)
  deriving DecidableEq

/-- A whole number as a 64-bit integer.  Whole numbers up to and including 2⁶³ are accepted; the
last is held down to the greatest integer. -/
def wholeInteger? (n : Binary64) : Option Int :=
  match n.whole? with
  | some i => if -(2 ^ 63) ≤ i && i ≤ 2 ^ 63 then some (min i (2 ^ 63 - 1)) else none
  | none => none

/-- A number as a person types it.  The bound is on the magnitude as a 64-bit integer, and that of
the least one wraps around to itself, which is below every bound; a build that checks for overflow
stops there instead. -/
def numberText (n : Binary64) : String :=
  match wholeInteger? n with
  | some i => if i.natAbs < 10 ^ 15 || i == -(2 ^ 63) then toString i else n.text
  | none => n.text

/-- Neighbours far beyond the bound, of which only the first has all its digits. -/
example : ["-9223372036854775808", "-9223372036854774784"].map
      (fun s => (Binary64.ofChars? s.toList).map numberText) =
    [some "-9223372036854775808", some "-9223372036854775000"] := by
  decide +kernel

def booleanText (b : Bool) : String := if b then "true" else "false"

namespace Cell

def isNull : Cell → Bool
  | null => true
  | _ => false

def kind : Cell → String
  | null => "null"
  | boolean _ => "boolean"
  | number _ => "number"
  | text _ => "text"

/-- The cell in messages. -/
def display : Cell → String
  | null => "null"
  | boolean b => booleanText b
  | number n => numberText n
  | text s => "\"" ++ s ++ "\""

end Cell

end TableLoad
