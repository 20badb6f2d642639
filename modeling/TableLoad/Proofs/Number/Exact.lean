import Mathlib.Algebra.Order.Field.Rat
import Mathlib.Tactic.FieldSimp
import TableLoad.Number.Binary64

/-! # Exact values

The rational number that a finite double is, and the whole numbers among these.  Rounding keeps a
value that a double can have, and takes a whole number to a whole number, the one nearest to it of
those with 53 significant bits.
-/
namespace TableLoad.Number

theorem exists_unitsPerOne_eq : ∃ shift, unitsPerOne = 2 ^ shift := ⟨1074, rfl⟩

theorem unitsPerOne_pos : 0 < unitsPerOne := by
  obtain ⟨shift, one⟩ := exists_unitsPerOne_eq
  exact one ▸ Nat.two_pow_pos shift

theorem spacing_pos (units : Nat) : 0 < spacing units := by
  rw [spacing]
  exact Nat.two_pow_pos _

namespace Binary64

def exactValue? : Binary64 → Option ℚ
  | finite negative units _ =>
    let size : ℚ := units / unitsPerOne
    some (if negative then -size else size)
  | _ => none

theorem natCast_div_eq_intCast_iff {units one : Nat} (pos : 0 < one) {k : Int} :
    (units : ℚ) / one = k ↔ (units : Int) = k * one := by
  have filled : (one : ℚ) ≠ 0 := by exact_mod_cast pos.ne'
  rw [div_eq_iff filled]
  norm_cast

theorem exactValue?_eq_some_iff {negative : Bool} {units : Nat} {fits : Representable units}
    {k : Int} : (finite negative units fits).exactValue? = some (k : ℚ) ↔
      (units : Int) = (if negative then -k else k) * unitsPerOne := by
  have size := @natCast_div_eq_intCast_iff units unitsPerOne unitsPerOne_pos
  cases negative with
  | false => simpa only [exactValue?, Bool.false_eq_true, if_false, Option.some.injEq] using size
  | true =>
    simp only [exactValue?, if_true, Option.some.injEq]
    rw [← size, Int.cast_neg, neg_eq_iff_eq_neg]

theorem whole?_finite_eq_some_iff {negative : Bool} {units : Nat} {fits : Representable units}
    {k : Int} : (finite negative units fits).whole? = some k ↔
      (units : Int) = (if negative then -k else k) * unitsPerOne := by
  have pos := unitsPerOne_pos
  rw [whole?]
  generalize unitsPerOne = one at *
  by_cases whole : one ∣ units
  · obtain ⟨size, rfl⟩ := whole
    have sized : ((one * size : Nat) : Int) = size * one := by
      rw [Nat.mul_comm, Int.natCast_mul]
    rw [if_pos (Nat.mul_mod_right one size), Nat.mul_div_cancel_left size pos, sized,
      Option.some.injEq, mul_eq_mul_right_iff, or_iff_left (by omega)]
    cases negative with
    | false => simp
    | true =>
      simp only [if_true]
      omega
  · rw [if_neg fun h => whole (Nat.dvd_of_mod_eq_zero h)]
    refine ⟨fun h => (by cases h), fun h => (whole ?_).elim⟩
    exact Int.natCast_dvd_natCast.1 (h ▸ Int.dvd_mul_left ..)

theorem whole?_eq_some_iff {n : Binary64} {k : Int} :
    n.whole? = some k ↔ n.exactValue? = some (k : ℚ) := by
  cases n with
  | nan => simp [whole?, exactValue?]
  | infinity negative => simp [whole?, exactValue?]
  | finite negative units fits => rw [whole?_finite_eq_some_iff, exactValue?_eq_some_iff]

end Binary64

section Rounding

theorem roundDiv_mul_right (tie : Tie) (num den : Nat) {scale : Nat} (pos : 0 < scale) :
    roundDiv tie (num * scale) (den * scale) = roundDiv tie num den := by
  have twice : 2 * (num * scale % (den * scale)) = 2 * (num % den) * scale := by
    rw [Nat.mul_mod_mul_right, Nat.mul_assoc]
  simp only [roundDiv, twice, Nat.mul_div_mul_right _ _ pos, Nat.mul_lt_mul_right pos]

theorem roundDiv_of_dvd (tie : Tie) (quotient : Nat) {den : Nat} (pos : 0 < den) :
    roundDiv tie (quotient * den) den = quotient := by
  simp [roundDiv, pos]

theorem log2_mul_two_pow {n : Nat} (filled : n ≠ 0) (shift : Nat) :
    (n * 2 ^ shift).log2 = n.log2 + shift := by
  have pos := Nat.two_pow_pos shift
  rw [Nat.log2_eq_iff (Nat.mul_ne_zero filled pos.ne')]
  refine ⟨?_, ?_⟩
  · rw [Nat.pow_add]
    exact Nat.mul_le_mul_right _ (Nat.log2_self_le filled)
  · rw [Nat.add_right_comm, Nat.pow_add]
    exact Nat.mul_lt_mul_of_pos_right Nat.lt_log2_self pos

/-- The neighbours of a count that a double can have are as far apart as its parts. -/
theorem spacing_dvd {units : Nat} (fits : Representable units) : spacing units ∣ units := by
  obtain ⟨-, mantissa, shift, small, rfl⟩ := fits
  by_cases filled : mantissa = 0
  · simp [filled]
  have bits := (Nat.log2_lt filled).2 small
  rw [spacing, log2_mul_two_pow filled]
  exact Nat.dvd_mul_left_of_dvd (Nat.pow_dvd_pow 2 (by omega)) mantissa

/-- Rounding keeps a value that a double can have. -/
theorem roundedUnits_of_representable {num den units : Nat} (pos : 0 < den)
    (same : num * unitsPerOne = units * den) (fits : Representable units) :
    roundedUnits num den = units := by
  have whole : num * unitsPerOne / den = units := by
    rw [same, Nat.mul_div_cancel _ pos]
  obtain ⟨parts, cut⟩ := spacing_dvd fits
  have scaled : units * den = parts * (den * spacing units) := by
    conv_lhs => rw [cut]
    ac_rfl
  rw [roundedUnits, whole, same, scaled,
    roundDiv_of_dvd _ _ (Nat.mul_pos pos (spacing_pos units)), Nat.mul_comm,
    ← cut]

theorem roundedUnits_mul_right (num den : Nat) {scale : Nat} (pos : 0 < scale) :
    roundedUnits (num * scale) (den * scale) = roundedUnits num den := by
  have swap (n m : Nat) : n * scale * m = n * m * scale := Nat.mul_right_comm ..
  simp only [roundedUnits, swap, Nat.mul_div_mul_right _ _ pos, roundDiv_mul_right _ _ _ pos]

/-- A count below a power of two is not rounded past it. -/
theorem roundedUnits_le_two_pow {num den bits : Nat} (pos : 0 < den)
    (h : num * unitsPerOne < 2 ^ bits * den) : roundedUnits num den ≤ 2 ^ bits := by
  have small : num * unitsPerOne / den < 2 ^ bits := (Nat.div_lt_iff_lt_mul pos).2 h
  obtain ⟨parts, cut⟩ : spacing (num * unitsPerOne / den) ∣ 2 ^ bits := by
    refine Nat.pow_dvd_pow 2 (Nat.le_trans (Nat.sub_le ..) ?_)
    by_cases filled : num * unitsPerOne / den = 0
    · rw [filled]
      exact Nat.zero_le _
    · exact ((Nat.log2_lt filled).2 small).le
  have room := spacing_pos (num * unitsPerOne / den)
  rw [roundedUnits]
  generalize spacing (num * unitsPerOne / den) = step at *
  have below : num * unitsPerOne / (den * step) < parts := by
    rw [← Nat.div_div_eq_div_mul, Nat.div_lt_iff_lt_mul room, Nat.mul_comm parts, ← cut]
    exact small
  rw [cut, Nat.mul_comm]
  exact Nat.mul_le_mul_left _ (Nat.le_trans (roundDiv_le ..) below)

theorem two_pow_le_roundedUnits {num den bits : Nat} (pos : 0 < den)
    (h : 2 ^ bits * den ≤ num * unitsPerOne) : 2 ^ bits ≤ roundedUnits num den := by
  have large : 2 ^ bits ≤ num * unitsPerOne / den := (Nat.le_div_iff_mul_le pos).2 h
  have filled : num * unitsPerOne / den ≠ 0 :=
    Nat.ne_of_gt (Nat.lt_of_lt_of_le (Nat.two_pow_pos bits) large)
  have log := (Nat.le_log2 filled).2 large
  have below := Nat.log2_self_le filled
  obtain ⟨parts, cut⟩ : spacing (num * unitsPerOne / den) ∣ 2 ^ (num * unitsPerOne / den).log2 :=
    Nat.pow_dvd_pow 2 (by omega)
  have room := spacing_pos (num * unitsPerOne / den)
  refine Nat.le_trans (Nat.pow_le_pow_right (by decide) log) ?_
  rw [roundedUnits]
  generalize spacing (num * unitsPerOne / den) = step at *
  have above : parts ≤ num * unitsPerOne / (den * step) := by
    rw [← Nat.div_div_eq_div_mul, Nat.le_div_iff_mul_le room, Nat.mul_comm parts, ← cut]
    exact below
  rw [cut, Nat.mul_comm]
  exact Nat.mul_le_mul_right _ (Nat.le_trans above (div_le_roundDiv ..))

/-- The natural number nearest to `n` of those with 53 significant bits. -/
def nearestWhole (n : Nat) : Nat := roundDiv .toEven n (spacing n) * spacing n

/-- A whole number is rounded to a whole number. -/
theorem roundedUnits_one (n : Nat) : roundedUnits n 1 = nearestWhole n * unitsPerOne := by
  obtain ⟨shift, one⟩ := exists_unitsPerOne_eq
  by_cases filled : n = 0
  · have none (den : Nat) (pos : 0 < den) : roundDiv .toEven 0 den = 0 := by
      simpa only [Nat.zero_mul] using roundDiv_of_dvd .toEven 0 pos
    rw [filled, roundedUnits, nearestWhole, Nat.zero_mul, Nat.one_mul]
    simp only [none _ (spacing_pos _), Nat.zero_mul]
  have log : (n * unitsPerOne).log2 = n.log2 + shift := one ▸ log2_mul_two_pow filled shift
  simp only [roundedUnits, Nat.div_one, Nat.one_mul, nearestWhole]
  rcases Nat.lt_or_ge 52 n.log2 with long | short
  · have step : spacing (n * unitsPerOne) = spacing n * unitsPerOne := by
      rw [spacing, log, spacing, one, ← Nat.pow_add, Nat.sub_add_comm long.le]
    rw [step, roundDiv_mul_right _ _ _ unitsPerOne_pos, Nat.mul_assoc]
  · have step : spacing n = 1 := by
      rw [spacing, Nat.sub_eq_zero_of_le short, Nat.pow_zero]
    obtain ⟨parts, cut⟩ : spacing (n * unitsPerOne) ∣ unitsPerOne := by
      rw [spacing, log, one]
      exact Nat.pow_dvd_pow 2 (by omega)
    have scaled : n * unitsPerOne = n * parts * spacing (n * unitsPerOne) := by
      conv_lhs => rw [cut]
      rw [Nat.mul_comm (spacing _), ← Nat.mul_assoc]
    have exact : roundDiv .toEven n 1 = n := by
      simpa using roundDiv_of_dvd .toEven n Nat.one_pos
    have same : roundDiv .toEven (n * unitsPerOne) (spacing (n * unitsPerOne)) = n * parts := by
      conv_lhs => arg 2; rw [scaled]
      exact roundDiv_of_dvd _ _ (spacing_pos _)
    rw [same, ← scaled, step, exact, Nat.mul_one]

theorem nearestWhole_le_two_pow {n bits : Nat} (h : n < 2 ^ bits) : nearestWhole n ≤ 2 ^ bits := by
  obtain ⟨shift, one⟩ := exists_unitsPerOne_eq
  have pos := unitsPerOne_pos
  have small : n * unitsPerOne < 2 ^ (bits + shift) * 1 := by
    rw [Nat.mul_one, Nat.pow_add, ← one]
    exact Nat.mul_lt_mul_of_pos_right h pos
  have near := roundedUnits_le_two_pow Nat.one_pos small
  rw [roundedUnits_one, Nat.pow_add, ← one] at near
  exact Nat.le_of_mul_le_mul_right near pos

theorem two_pow_le_nearestWhole {n bits : Nat} (h : 2 ^ bits ≤ n) : 2 ^ bits ≤ nearestWhole n := by
  obtain ⟨shift, one⟩ := exists_unitsPerOne_eq
  have large : 2 ^ (bits + shift) * 1 ≤ n * unitsPerOne := by
    rw [Nat.mul_one, Nat.pow_add, ← one]
    exact Nat.mul_le_mul_right _ h
  have near := two_pow_le_roundedUnits Nat.one_pos large
  rw [roundedUnits_one, Nat.pow_add, ← one] at near
  exact Nat.le_of_mul_le_mul_right near unitsPerOne_pos

theorem overflowUnits_eq : overflowUnits = 2 ^ 1024 * unitsPerOne := by decide +kernel

theorem nearestWhole_mul_lt_iff (n : Nat) :
    nearestWhole n * unitsPerOne < overflowUnits ↔ nearestWhole n < 2 ^ 1024 := by
  rw [overflowUnits_eq, Nat.mul_lt_mul_right unitsPerOne_pos]

/-- Up to halfway to the next double, which goes to the even significand, a whole number is
rounded down to 2⁶³. -/
theorem nearestWhole_le_iff (n : Nat) : nearestWhole n ≤ 2 ^ 63 ↔ n ≤ 2 ^ 63 + 2 ^ 10 := by
  rcases Nat.lt_or_ge n (2 ^ 63) with small | large
  · have := nearestWhole_le_two_pow small
    omega
  rcases Nat.lt_or_ge n (2 ^ 64) with near | far
  · have log : n.log2 = 63 := (Nat.log2_eq_iff (by omega)).2 ⟨large, near⟩
    have step : spacing n = 2048 := by rw [spacing, log]; rfl
    rw [nearestWhole, step, roundDiv]
    split
    · omega
    · split <;> omega
  · have := two_pow_le_nearestWhole far
    omega

end Rounding

namespace Binary64

theorem nearestWhole_of_exact {x : Binary64} {k : Int} (h : x.exactValue? = some (k : ℚ)) :
    nearestWhole k.natAbs = k.natAbs := by
  cases x with
  | nan => cases h
  | infinity negative => cases h
  | finite negative units fits =>
    rw [exactValue?_eq_some_iff] at h
    have size : k.natAbs * unitsPerOne = units * 1 := by
      rw [← Int.natAbs_natCast units, h, Int.natAbs_mul, Int.natAbs_natCast, Nat.mul_one]
      cases negative with
      | false => simp
      | true => simp
    have kept := roundedUnits_of_representable Nat.one_pos size fits
    rw [roundedUnits_one, ← Nat.mul_one units, ← size] at kept
    exact Nat.eq_of_mul_eq_mul_right unitsPerOne_pos kept

theorem exactValue?_ofRatio_one (negative : Bool) {n : Nat} (h : nearestWhole n < 2 ^ 1024) :
    (ofRatio negative n 1).exactValue? =
      some (((if negative then -(nearestWhole n : Int) else nearestWhole n) : Int) : ℚ) := by
  rw [← nearestWhole_mul_lt_iff, ← roundedUnits_one] at h
  rw [ofRatio, dif_pos h, exactValue?_eq_some_iff, roundedUnits_one, Int.natCast_mul]
  cases negative with
  | false => simp only [Bool.false_eq_true, if_false]
  | true => simp only [if_true, Int.neg_neg]

theorem ofRatio_one_of_large (negative : Bool) {n : Nat} (h : 2 ^ 1024 ≤ nearestWhole n) :
    ofRatio negative n 1 = .infinity negative := by
  rw [← Nat.not_lt, ← nearestWhole_mul_lt_iff, ← roundedUnits_one] at h
  exact dif_neg h

end Binary64

end TableLoad.Number
