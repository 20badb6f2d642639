import TableLoad.Number.Numeral

/-! # Scaled significands

The quick way to a number from a decimal: its leading digits, as many as fit 64 bits, become a
number, which is multiplied or divided by a power of ten.  Each step rounds, so a long decimal may
miss the nearest number by a little.
-/
namespace TableLoad.Number

/-- The greatest power of ten that is a finite number. -/
def maxPower : Nat := 308

/-- The units of a power of ten, rounded to a number. -/
def powerUnits (exponent : Nat) : Nat := roundedUnits (10 ^ exponent) 1

/-- A count of units divided by the greatest power of ten so many times. -/
def dividedBySteps (units : Nat) : Nat → Nat
  | 0 => units
  | steps + 1 =>
    if units = 0 then 0 else dividedBySteps (roundedUnits units (powerUnits maxPower)) steps

/-- A count of units times a power of ten.  A power too small to be a number is divided by in
steps. -/
def scaled (negative : Bool) (units : Nat) (exponent : Int) : Binary64 :=
  if exponent < 0 then
    let power := (-exponent).toNat
    let steps := (power - 1) / maxPower
    .ofRatio negative (dividedBySteps units steps) (powerUnits (power - maxPower * steps))
  else if units = 0 then .ofRatio negative 0 1
  else if exponent ≤ maxPower then
    .ofRatio negative (units * powerUnits exponent.toNat) (unitsPerOne * unitsPerOne)
  else .infinity negative

/-- Digits put after those of `n` while the result fits 64 bits, and the count of those that do
not count. -/
def leadingDigits (n : Nat) : List Char → Nat × Nat
  | [] => (n, 0)
  | c :: rest =>
    let longer := 10 * n + (c.toNat - '0'.toNat)
    if longer < 2 ^ 64 then leadingDigits longer rest else (n, rest.length + 1)

namespace Numeral

def ofLeadingDigits (negative : Bool) (whole fraction : List Char) : Numeral :=
  let (n, left) := leadingDigits 0 whole
  let (n, ignored) := leadingDigits n fraction
  ⟨negative, n, (left : Int) - ((fraction.length - ignored : Nat) : Int)⟩

/-- The number that the quick way gives. -/
def toScaled (n : Numeral) : Binary64 :=
  scaled n.negative (roundedUnits n.coefficient 1) n.exponent

end Numeral

end TableLoad.Number
