import TableLoad.Proofs.Number.Decimals

/-! # Whole numbers in texts

A whole number may be written with a sign and with a fraction of zeros.  As a decimal it is read
exactly, zeros and all, and then rounded to the nearest double, as if it had no zeros.
-/
namespace TableLoad.Number

/-- A whole number as a text may write it: a sign, digits, and perhaps a point and zeros. -/
structure WholeNumeral where
  sign : List Char
  shown : List Char
  fraction : List Char
  isSign : sign = [] ∨ sign = ['+'] ∨ sign = ['-']
  filled : shown ≠ []
  isDigit : ∀ c ∈ shown, c.isDigit = true
  isFraction : fraction = [] ∨ ∃ places, fraction = '.' :: List.replicate places '0'

namespace WholeNumeral
variable (w : WholeNumeral)

def chars : List Char := w.sign ++ (w.shown ++ w.fraction)

def isNegative : Bool := w.sign == ['-']

def size : Nat := Nat.ofDigitChars 10 w.shown 0

def value : Int := if w.isNegative then -(w.size : Int) else w.size

theorem natAbs_value : w.value.natAbs = w.size := by
  unfold value
  split <;> simp

def decimal : DecimalNumeral where
  sign := w.sign
  whole := w.shown
  separator := w.fraction.take 1
  fraction := w.fraction.drop 1
  isSign := w.isSign
  isWhole := w.isDigit
  isSeparator := by
    rcases w.isFraction with none | ⟨places, point⟩
    · simp [none]
    · simp [point]
  isFraction := by
    rcases w.isFraction with none | ⟨places, point⟩
    · simp [none]
    · simp [point]
  filled := by simp [w.filled]

theorem decimal_body : w.decimal.separator ++ w.decimal.fraction = w.fraction :=
  List.take_append_drop 1 w.fraction

theorem decimal_chars : w.decimal.chars = w.chars := by
  rw [DecimalNumeral.chars, decimal_body]
  rfl

/-- The zeros of the fraction are put after the digits. -/
theorem decimal_coefficient : w.decimal.coefficient = w.size * 10 ^ w.decimal.places := by
  unfold decimal DecimalNumeral.coefficient DecimalNumeral.places size
  rcases w.isFraction with none | ⟨places, point⟩
  · simp [none]
  · simp only [point, List.drop_succ_cons, List.drop_zero, Nat.ofDigitChars_append,
      Nat.ofDigitChars_replicate_zero, List.length_replicate, Nat.mul_comm]

theorem signed_chars : signed w.chars = (w.isNegative, w.shown ++ w.fraction) := by
  rw [← decimal_chars, DecimalNumeral.signed_chars, decimal_body]
  rfl

/-- Only a text without a fraction is an integer. -/
theorem int?_chars : int? w.chars = if w.fraction = [] then some w.value else none := by
  rw [int?, signed_chars]
  dsimp only
  rcases w.isFraction with none | ⟨places, point⟩
  · rw [if_pos none, none, List.append_nil, nat?_of_digits w.filled w.isDigit]
    rfl
  · have mixed : nat? (w.shown ++ w.fraction) = none := by
      simp [nat?, point]
    rw [mixed, if_neg (by simp [point])]
    rfl

/-- The zeros of the fraction do not change the nearest double. -/
theorem ofRatio_decimal :
    Binary64.ofRatio w.decimal.isNegative w.decimal.coefficient (10 ^ w.decimal.places) =
      .ofRatio w.isNegative w.size 1 := by
  have unit : 0 < (10 : Nat) ^ w.decimal.places := Nat.pow_pos (by decide)
  have scaled := Binary64.ofRatio_mul_right w.isNegative w.size 1 unit
  rwa [Nat.one_mul, ← decimal_coefficient] at scaled

end WholeNumeral

end TableLoad.Number
