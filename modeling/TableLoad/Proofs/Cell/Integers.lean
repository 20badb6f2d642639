import TableLoad.Proofs.Cell.Decimals
import TableLoad.Proofs.Number.Whole

/-! # Integers in cells

Which integer a number or a text is in an integer column.  A number is the integer that it exactly
is, but for 2⁶³, which is one too large and is held down.  A text of digits is read exactly; one
with a fraction of zeros, or past the range, is first rounded to a double, and is right just where
that does no harm.
-/
namespace TableLoad
open Text Number

def IsInt64 (i : Int) : Prop := -(2 ^ 63) ≤ i ∧ i < 2 ^ 63

instance (i : Int) : Decidable (IsInt64 i) := by
  unfold IsInt64
  infer_instance

section Whole

theorem wholeInteger?_of_whole? {n : Binary64} {k : Int} (h : n.whole? = some k) :
    wholeInteger? n =
      if -(2 ^ 63) ≤ k ∧ k ≤ 2 ^ 63 then some (min k (2 ^ 63 - 1)) else none := by
  simp only [wholeInteger?, h, Bool.and_eq_true, decide_eq_true_eq]

theorem wholeInteger?_of_not_whole {n : Binary64} (h : n.whole? = none) :
    wholeInteger? n = none := by
  simp only [wholeInteger?, h]

/-- A number is taken for the integer that it exactly is, and 2⁶³ for the greatest integer. -/
theorem wholeInteger?_eq_some_iff {n : Binary64} {i : Int} : wholeInteger? n = some i ↔
    n.exactValue? = some (i : ℚ) ∧ IsInt64 i ∨
      n.exactValue? = some ((2 ^ 63 : Int) : ℚ) ∧ i = 2 ^ 63 - 1 := by
  simp only [← Binary64.whole?_eq_some_iff, IsInt64]
  cases h : n.whole? with
  | none => simp [wholeInteger?_of_not_whole h]
  | some k =>
    rw [wholeInteger?_of_whole? h]
    simp only [Option.some.injEq, Option.ite_none_right_eq_some]
    omega

theorem wholeInteger?_ofRatio_one (negative : Bool) (n : Nat) :
    wholeInteger? (.ofRatio negative n 1) =
      if nearestWhole n ≤ 2 ^ 63 then
        some (min (if negative then -(nearestWhole n : Int) else nearestWhole n) (2 ^ 63 - 1))
      else none := by
  rcases Nat.lt_or_ge (nearestWhole n) (2 ^ 1024) with finite | large
  · rw [wholeInteger?_of_whole?
      (Binary64.whole?_eq_some_iff.2 (Binary64.exactValue?_ofRatio_one negative finite))]
    apply if_congr _ rfl rfl
    cases negative with
    | false => simp
    | true => simp
  · have past : 2 ^ 63 < nearestWhole n := Nat.lt_of_lt_of_le (by decide +kernel) large
    rw [Binary64.ofRatio_one_of_large negative large, if_neg (Nat.not_le.2 past)]
    rfl

end Whole

section Texts

theorem bind_filter_isFinite (x : Option Binary64) :
    (x.filter Binary64.isFinite).bind wholeInteger? = x.bind wholeInteger? := by
  cases x with
  | none => rfl
  | some x => cases x <;> rfl

variable (w : WholeNumeral)

theorem int64?_chars : int64? w.chars =
    if w.fraction = [] ∧ IsInt64 w.value then some w.value else none := by
  rw [int64?, w.int?_chars]
  by_cases plain : w.fraction = []
  · simp only [plain, if_true, true_and, IsInt64, Option.filter_some, Bool.and_eq_true,
      decide_eq_true_eq]
  · simp [plain]

/-- Digits in the range are read exactly; other whole numbers are rounded first. -/
theorem integer?_chars : integer? w.chars =
    if w.fraction = [] ∧ IsInt64 w.value then some w.value
    else if nearestWhole w.size ≤ 2 ^ 63 then
      some (min (if w.isNegative then -(nearestWhole w.size : Int) else nearestWhole w.size)
        (2 ^ 63 - 1))
    else none := by
  have rounded : (decimal? w.chars).bind wholeInteger? =
      wholeInteger? (.ofRatio w.isNegative w.size 1) := by
    rw [← w.decimal_chars, decimal?_chars, bind_filter_isFinite, Option.bind_some,
      w.ofRatio_decimal]
  rw [integer?, rounded, wholeInteger?_ofRatio_one, int64?_chars]
  by_cases plain : w.fraction = [] ∧ IsInt64 w.value
  · simp only [if_pos plain]
  · simp only [if_neg plain]

end Texts

namespace Cell

theorem integerValue_eq_ok_iff {cell : Cell} {read : Option Int} {fault : Misfit}
    (h : cell.integerValue = (read.map Value.integer).elim (.error fault) .ok) (i : Int) :
    cell.value .integer = .ok (.integer i) ↔ read = some i := by
  rw [value, h]
  cases read <;> simp

/-- A number is an integer of a column exactly when its exact value is that integer, but for 2⁶³,
which is taken for the greatest integer. -/
theorem number_value_integer_iff (n : Binary64) (i : Int) :
    (number n).value .integer = .ok (.integer i) ↔
      n.exactValue? = some (i : ℚ) ∧ IsInt64 i ∨
        n.exactValue? = some ((2 ^ 63 : Int) : ℚ) ∧ i = 2 ^ 63 - 1 := by
  rw [integerValue_eq_ok_iff rfl, wholeInteger?_eq_some_iff]

/-- The number 2⁶³ is no integer of 64 bits, and is taken for another one. -/
theorem number_value_integer_held :
    (Binary64.ofInt (2 ^ 63)).exactValue? = some ((2 ^ 63 : Int) : ℚ) ∧
      (number (Binary64.ofInt (2 ^ 63))).value .integer = .ok (.integer (2 ^ 63 - 1)) :=
  ⟨Binary64.whole?_eq_some_iff.1 (by decide +kernel), by decide +kernel⟩

/-- The integer that a text denotes, if it is in the range. -/
def exactInteger (s : String) (i : Int) : Except Misfit Value :=
  if IsInt64 i then .ok (.integer i) else .error (.notInteger s)

theorem exactInteger_eq_iff {s : String} {i : Int} {read : Option Int} :
    (read.map Value.integer).elim (.error (.notInteger s)) .ok = exactInteger s i ↔
      read = if IsInt64 i then some i else none := by
  rw [exactInteger]
  cases read <;> split <;> simp

theorem exists_exact_value {w : WholeNumeral} (same : nearestWhole w.size = w.size)
    (small : w.size ≤ 2 ^ 63) : ∃ x : Binary64, x.exactValue? = some (w.value : ℚ) := by
  have finite : nearestWhole w.size < 2 ^ 1024 :=
    Nat.lt_of_le_of_lt (same.trans_le small) (by decide +kernel)
  have exact := Binary64.exactValue?_ofRatio_one w.isNegative finite
  rw [same] at exact
  exact ⟨_, exact⟩

theorem rounded_eq_iff (w : WholeNumeral) :
    (if nearestWhole w.size ≤ 2 ^ 63 then
      some (min (if w.isNegative then -(nearestWhole w.size : Int) else nearestWhole w.size)
        (2 ^ 63 - 1))
      else none) = (if IsInt64 w.value then some w.value else none) ↔
    (∃ x : Binary64, x.exactValue? = some (w.value : ℚ)) ∧ w.value ≠ 2 ^ 63 ∨
      w.value = 2 ^ 63 - 1 ∨ 2 ^ 63 + 2 ^ 10 < w.value.natAbs := by
  have limit := nearestWhole_le_iff w.size
  have double : (∃ x : Binary64, x.exactValue? = some (w.value : ℚ)) →
      nearestWhole w.size = w.size :=
    fun ⟨_, exact⟩ => w.natAbs_value ▸ Binary64.nearestWhole_of_exact exact
  have greatest : w.size = 2 ^ 63 - 1 → nearestWhole w.size = 2 ^ 63 := by
    intro h
    rw [h]
    decide +kernel
  have exists_exact := @exists_exact_value w
  have sized := w.natAbs_value
  have signed : (if w.isNegative then -(nearestWhole w.size : Int) else nearestWhole w.size) =
      w.value ↔ nearestWhole w.size = w.size := by
    rw [WholeNumeral.value]
    cases w.isNegative <;> simp
  have positive : 0 < w.value →
      (if w.isNegative then -(nearestWhole w.size : Int) else nearestWhole w.size) =
        nearestWhole w.size := by
    rw [WholeNumeral.value]
    cases w.isNegative with
    | false => simp
    | true => simp only [if_true]; omega
  have range : IsInt64 w.value ↔ -(2 ^ 63) ≤ w.value ∧ w.value < 2 ^ 63 := Iff.rfl
  generalize nearestWhole w.size = r at *
  generalize (if w.isNegative then -(r : Int) else r) = held at *
  generalize w.size = n at *
  generalize w.value = i at *
  constructor
  · intro same
    by_cases near : r ≤ 2 ^ 63
    · rw [if_pos near, eq_comm, Option.ite_none_right_eq_some, Option.some.injEq, range] at same
      by_cases top : i = 2 ^ 63 - 1
      · exact .inr (.inl top)
      · exact .inl ⟨exists_exact (by omega) (by omega), by omega⟩
    · exact .inr (.inr (by omega))
  · rintro (⟨exact, other⟩ | top | far)
    · have kept := signed.2 (double exact)
      by_cases near : r ≤ 2 ^ 63
      · rw [if_pos near, if_pos (range.2 (by omega)), Option.some.injEq]
        omega
      · rw [if_neg near, if_neg (mt range.1 (by omega))]
    · have even := greatest (by omega)
      rw [if_pos (by omega), if_pos (range.2 (by omega)), positive (by omega), even, top]
      rfl
    · rw [if_neg (by omega), if_neg (mt range.1 (by omega))]

/-- A text that denotes an integer, perhaps with a fraction of zeros, gives that integer if it is
in the range and is refused if not, exactly if it is written without a fraction and is in the
range, or is a double other than 2⁶³, or is 2⁶³ - 1, which rounding and holding down leave as it
is, or lies so far outside that rounding does not bring it back. -/
theorem text_value_integer_exact_iff (w : WholeNumeral) {s : String}
    (written : trimmed s.toList = w.chars) :
    (text s).value .integer = exactInteger s w.value ↔
      w.fraction = [] ∧ IsInt64 w.value ∨
        (∃ x : Binary64, x.exactValue? = some (w.value : ℚ)) ∧ w.value ≠ 2 ^ 63 ∨
          w.value = 2 ^ 63 - 1 ∨ 2 ^ 63 + 2 ^ 10 < w.value.natAbs := by
  rw [value, integerValue, exactInteger_eq_iff, written, integer?_chars]
  by_cases plain : w.fraction = [] ∧ IsInt64 w.value
  · simp [plain]
  · rw [if_neg plain, or_iff_right plain, rounded_eq_iff]

/-- A double past 2⁵³, with a sign, a fraction and blank ends. -/
theorem text_value_integer_exact_past_digits : ∃ w : WholeNumeral,
    trimmed "\t-9007199254740994.00 ".toList = w.chars ∧ w.value = -9007199254740994 ∧
      (text "\t-9007199254740994.00 ").value .integer = .ok (.integer (-9007199254740994)) := by
  let w : WholeNumeral :=
    { sign := ['-']
      shown := "9007199254740994".toList
      fraction := ".00".toList
      isSign := by decide
      filled := by decide
      isDigit := by decide
      isFraction := .inr ⟨2, by decide⟩ }
  have value : w.value = -9007199254740994 := by decide
  have written : trimmed "\t-9007199254740994.00 ".toList = w.chars := by decide
  have double : (Binary64.ofInt w.value).exactValue? = some (w.value : ℚ) :=
    Binary64.whole?_eq_some_iff.1 (by decide +kernel)
  have exact := (text_value_integer_exact_iff w written).2
    (.inr (.inl ⟨⟨_, double⟩, by decide⟩))
  exact ⟨w, written, value, exact⟩

/-- A fraction of zeros changes an integer past 2⁵³, and 2⁶³ is not refused. -/
theorem text_value_integer_rounded :
    (∃ w : WholeNumeral, trimmed "9007199254740993.0".toList = w.chars ∧
      w.value = 9007199254740993 ∧
        (text "9007199254740993.0").value .integer = .ok (.integer 9007199254740992)) ∧
      ∃ w : WholeNumeral, trimmed "9223372036854775808".toList = w.chars ∧
        w.value = 9223372036854775808 ∧
          (text "9223372036854775808").value .integer = .ok (.integer 9223372036854775807) := by
  refine ⟨⟨⟨[], "9007199254740993".toList, ".0".toList, by decide, by decide, by decide,
    .inr ⟨1, by decide⟩⟩, by decide, by decide, by decide +kernel⟩, ?_⟩
  exact ⟨⟨[], "9223372036854775808".toList, [], by decide, by decide, by decide, .inl rfl⟩,
    by decide, by decide, by decide +kernel⟩

end Cell

end TableLoad
