import Mathlib.Algebra.Order.Field.Basic
import Mathlib.Tactic.Linarith
import TableLoad.Proofs.Number.Exact

/-! # Nearest values

How far rounding goes.  A rounded quotient is the integer nearest to the quotient, and a rounded
count of units lies within half the distance of its neighbours, which is a small part of the count.
-/
namespace TableLoad.Number

/-- The integer `r` is nearest to the quotient, and even if another one is as near. -/
def IsNearest (num den r : Nat) : Prop :=
  2 * num < 2 * (r * den) + den ∧ 2 * (r * den) < 2 * num + den ∨
    (2 * num = 2 * (r * den) + den ∨ 2 * (r * den) = 2 * num + den) ∧ r % 2 = 0

section Quotients
variable {num den r num' r' : Nat}

theorem isNearest_roundDiv (num : Nat) (pos : 0 < den) :
    IsNearest num den (roundDiv .toEven num den) := by
  have parts := Nat.div_add_mod' num den
  have small := Nat.mod_lt num pos
  have next := Nat.add_one_mul (num / den) den
  have rounded : roundDiv .toEven num den =
      if 2 * (num % den) < den then num / den
      else if den < 2 * (num % den) then num / den + 1 else num / den + num / den % 2 := rfl
  rw [IsNearest, rounded]
  generalize num / den = q at *
  generalize num % den = m at *
  split
  · omega
  · split
    · omega
    · -- halfway, an even quotient stays and an odd one goes up
      rcases Nat.mod_two_eq_zero_or_one q with even | odd
      · rw [even, Nat.add_zero]
        omega
      · rw [odd]
        omega

theorem IsNearest.bounds (h : IsNearest num den r) :
    2 * num ≤ 2 * (r * den) + den ∧ 2 * (r * den) ≤ 2 * num + den := by
  unfold IsNearest at h
  omega

theorem IsNearest.le (pos : 0 < den) (h : IsNearest num den r) (h' : IsNearest num' den r')
    (below : num ≤ num') : r ≤ r' := by
  by_contra less
  have apart : r' * den + den ≤ r * den :=
    Nat.succ_mul r' den ▸ Nat.mul_le_mul_right den (Nat.not_le.1 less)
  -- both are as near as can be, so they are neighbours, and one of them is odd
  have next : r * den = (r' + 1) * den := by
    have near := h.bounds
    have near' := h'.bounds
    rw [Nat.add_one_mul]
    omega
  have odd := Nat.eq_of_mul_eq_mul_right pos next
  unfold IsNearest at h h'
  omega

theorem roundDiv_eq_iff (pos : 0 < den) :
    roundDiv .toEven num den = r ↔ IsNearest num den r := by
  have rounded := isNearest_roundDiv num pos
  constructor
  · rintro rfl
    exact rounded
  · intro h
    exact Nat.le_antisymm (rounded.le pos h le_rfl) (h.le pos rounded le_rfl)

/-- The distance of a quotient from the integer nearest to it. -/
theorem isNearest_iff_abs (pos : 0 < den) : IsNearest num den r ↔
    |(num : ℚ) / den - r| < 1 / 2 ∨ |(num : ℚ) / den - r| = 1 / 2 ∧ Even r := by
  have filled : (0 : ℚ) < den := by exact_mod_cast pos
  have distance : |(num : ℚ) / den - r| = |(num : ℚ) - (r * den : Nat)| / den := by
    rw [Nat.cast_mul, ← abs_of_pos filled, ← abs_div, abs_of_pos filled, sub_div,
      mul_div_cancel_right₀ _ filled.ne']
  rw [distance, div_lt_iff₀ filled, div_eq_iff filled.ne', Nat.even_iff, IsNearest]
  generalize r * den = point
  have half : (0 : ℚ) ≤ 1 / 2 * den := by linarith
  rw [abs_lt, abs_eq half]
  have below : 2 * num < 2 * point + den ↔ (num : ℚ) - point < 1 / 2 * den := by
    rw [← Nat.cast_lt (α := ℚ)]
    push_cast
    constructor <;> intro h <;> linarith
  have above : 2 * point < 2 * num + den ↔ -(1 / 2 * den) < (num : ℚ) - point := by
    rw [← Nat.cast_lt (α := ℚ)]
    push_cast
    constructor <;> intro h <;> linarith
  have upper : 2 * num = 2 * point + den ↔ (num : ℚ) - point = 1 / 2 * den := by
    rw [← Nat.cast_inj (R := ℚ)]
    push_cast
    constructor <;> intro h <;> linarith
  have lower : 2 * point = 2 * num + den ↔ (num : ℚ) - point = -(1 / 2 * den) := by
    rw [← Nat.cast_inj (R := ℚ)]
    push_cast
    constructor <;> intro h <;> linarith
  rw [below, above, upper, lower, and_comm (a := (num : ℚ) - point < _)]

theorem roundDiv_up_eq (num : Nat) (pos : 0 < den) :
    roundDiv .up num den = (2 * num + den) / (2 * den) := by
  have parts := Nat.div_add_mod' num den
  have small := Nat.mod_lt num pos
  have rounded : roundDiv .up num den =
      if 2 * (num % den) < den then num / den
      else if den < 2 * (num % den) then num / den + 1 else num / den + 1 := rfl
  have twice (q : Nat) : q * (2 * den) = 2 * (q * den) := by rw [Nat.mul_left_comm]
  have next := Nat.add_one_mul (num / den) den
  rw [rounded, ite_self]
  generalize num % den = m at *
  symm
  split
  all_goals
    rw [Nat.div_eq_iff (by omega), twice]
    omega

theorem roundDiv_up_bounds (num : Nat) (pos : 0 < den) :
    2 * num < 2 * (roundDiv .up num den * den) + den ∧
      2 * (roundDiv .up num den * den) ≤ 2 * num + den := by
  have parts := Nat.div_add_mod' (2 * num + den) (2 * den)
  have small := Nat.mod_lt (2 * num + den) (Nat.mul_pos Nat.two_pos pos)
  rw [← roundDiv_up_eq num pos, Nat.mul_left_comm] at parts
  omega

theorem roundDiv_up_le (pos : 0 < den) (h : num ≤ num') :
    roundDiv .up num den ≤ roundDiv .up num' den := by
  rw [roundDiv_up_eq num pos, roundDiv_up_eq num' pos]
  exact Nat.div_le_div_right (by omega)

end Quotients

section Units

theorem spacing_cases (units : Nat) : spacing units = 1 ∨ spacing units * 2 ^ 52 ≤ units := by
  rw [spacing]
  rcases Nat.le_total units.log2 52 with small | large
  · left
    rw [Nat.sub_eq_zero_of_le small, Nat.pow_zero]
  · right
    by_cases filled : units = 0
    · simp [filled] at large
    · rw [← Nat.pow_add, Nat.sub_add_cancel large]
      exact Nat.log2_self_le filled

theorem spacing_dvd_spacing {a b : Nat} (h : a ≤ b) : spacing a ∣ spacing b := by
  refine Nat.pow_dvd_pow 2 (Nat.sub_le_sub_right ?_ 52)
  by_cases filled : a = 0
  · simp [filled]
  · exact (Nat.le_log2 (by omega)).2 (Nat.le_trans (Nat.log2_self_le filled) h)

/-- A rounded count is within half a step of the quotient. -/
theorem roundedUnits_bounds (num : Nat) {den : Nat} (pos : 0 < den) :
    2 * (num * unitsPerOne) ≤
        2 * (roundedUnits num den * den) + den * spacing (num * unitsPerOne / den) ∧
      2 * (roundedUnits num den * den) ≤
        2 * (num * unitsPerOne) + den * spacing (num * unitsPerOne / den) := by
  have room := Nat.mul_pos pos (spacing_pos (num * unitsPerOne / den))
  have near := (isNearest_roundDiv (num * unitsPerOne) room).bounds
  have same : roundDiv .toEven (num * unitsPerOne) (den * spacing (num * unitsPerOne / den)) *
      (den * spacing (num * unitsPerOne / den)) = roundedUnits num den * den := by
    rw [roundedUnits]
    generalize roundDiv .toEven _ _ = nearest
    generalize spacing _ = step
    ac_rfl
  rwa [same] at near

theorem roundedUnits_eq_zero {num den : Nat} (h : 2 * (num * unitsPerOne) < den) :
    roundedUnits num den = 0 := by
  have pos : 0 < den := Nat.lt_of_le_of_lt (Nat.zero_le _) h
  have none : num * unitsPerOne / den = 0 := Nat.div_eq_of_lt (by omega)
  have near : roundDiv .toEven (num * unitsPerOne) den = 0 := by
    rw [roundDiv_eq_iff pos, IsNearest, Nat.zero_mul]
    omega
  have step : spacing 0 = 1 := rfl
  rw [roundedUnits, none, step, Nat.mul_one, Nat.mul_one, near]

/-- Quotients past the range are infinite. -/
theorem overflowUnits_le_roundedUnits {num den : Nat} (pos : 0 < den)
    (large : overflowUnits * den ≤ num * unitsPerOne) : overflowUnits ≤ roundedUnits num den := by
  obtain ⟨top, limit⟩ : ∃ top, overflowUnits = 2 ^ top := ⟨2098, rfl⟩
  rw [limit] at large ⊢
  exact two_pow_le_roundedUnits pos large

theorem roundedUnits_lt_overflowUnits {num den bits : Nat} (pos : 0 < den) (small : num < 2 ^ bits)
    (finite : bits < 1024) : roundedUnits num den < overflowUnits := by
  obtain ⟨shift, power⟩ := exists_unitsPerOne_eq
  obtain ⟨top, room, limit⟩ : ∃ top, bits < top ∧ overflowUnits = 2 ^ top * unitsPerOne :=
    ⟨1024, finite, overflowUnits_eq⟩
  have one := unitsPerOne_pos
  have units : num * unitsPerOne < 2 ^ (bits + shift) * den := by
    rw [Nat.pow_add, ← power]
    calc num * unitsPerOne < 2 ^ bits * unitsPerOne := Nat.mul_lt_mul_of_pos_right small one
      _ ≤ 2 ^ bits * unitsPerOne * den := Nat.le_mul_of_pos_right _ pos
  calc roundedUnits num den ≤ 2 ^ (bits + shift) := roundedUnits_le_two_pow pos units
    _ = 2 ^ bits * unitsPerOne := by rw [Nat.pow_add, ← power]
    _ < 2 ^ top * unitsPerOne :=
      Nat.mul_lt_mul_of_pos_right (Nat.pow_lt_pow_right (by decide) room) one
    _ = overflowUnits := limit.symm

/-- A count of units is rounded like a whole number. -/
theorem roundedUnits_unitsPerOne (n : Nat) : roundedUnits n unitsPerOne = nearestWhole n := by
  have one := unitsPerOne_pos
  rw [roundedUnits, Nat.mul_div_cancel _ one, Nat.mul_comm unitsPerOne,
    roundDiv_mul_right .toEven n (spacing n) one]
  rfl

theorem nearestWhole_bounds (n : Nat) :
    2 * n ≤ 2 * nearestWhole n + spacing n ∧ 2 * nearestWhole n ≤ 2 * n + spacing n :=
  (isNearest_roundDiv n (spacing_pos n)).bounds

theorem representable_mul_two_pow {mantissa shift : Nat} (small : mantissa < 2 ^ 53)
    (room : 53 + shift ≤ 2098) : Representable (mantissa * 2 ^ shift) := by
  obtain ⟨top, fit, limit⟩ : ∃ top, 53 + shift ≤ top ∧ overflowUnits = 2 ^ top := ⟨2098, room, rfl⟩
  refine ⟨?_, mantissa, shift, small, rfl⟩
  calc mantissa * 2 ^ shift < 2 ^ 53 * 2 ^ shift :=
        Nat.mul_lt_mul_of_pos_right small (Nat.two_pow_pos shift)
    _ = 2 ^ (53 + shift) := (Nat.pow_add ..).symm
    _ ≤ 2 ^ top := Nat.pow_le_pow_right Nat.two_pos fit
    _ = overflowUnits := limit.symm

theorem nearestWhole_of_lt {n : Nat} (h : n < 2 ^ 53) : nearestWhole n = n := by
  have fits : Representable (n * 2 ^ 0) := representable_mul_two_pow h (by decide)
  rw [Nat.pow_zero, Nat.mul_one] at fits
  rw [← roundedUnits_unitsPerOne]
  exact roundedUnits_of_representable unitsPerOne_pos rfl fits

theorem nearestWhole_mul_unitsPerOne (n : Nat) :
    nearestWhole (n * unitsPerOne) = nearestWhole n * unitsPerOne := by
  have scaled := roundedUnits_mul_right n 1 unitsPerOne_pos
  rwa [Nat.one_mul, roundedUnits_unitsPerOne, roundedUnits_one] at scaled

/-- Zeros after a number that has to be rounded do not change how it is. -/
theorem nearestWhole_mul_two_pow {n : Nat} (long : 52 ≤ n.log2) (shift : Nat) :
    nearestWhole (n * 2 ^ shift) = nearestWhole n * 2 ^ shift := by
  have filled : n ≠ 0 := by
    rintro rfl
    cases long
  have step : spacing (n * 2 ^ shift) = spacing n * 2 ^ shift := by
    rw [spacing, spacing, log2_mul_two_pow filled, Nat.sub_add_comm long, Nat.pow_add]
  rw [nearestWhole, nearestWhole, step, roundDiv_mul_right _ _ _ (Nat.two_pow_pos shift),
    Nat.mul_assoc]

/-- A greater number has no smaller nearest one. -/
theorem nearestWhole_le_nearestWhole {a b : Nat} (h : a ≤ b) : nearestWhole a ≤ nearestWhole b := by
  by_cases none : a = 0
  · have zero : nearestWhole 0 = 0 := rfl
    rw [none, zero]
    exact Nat.zero_le _
  have order : a.log2 ≤ b.log2 := (Nat.le_log2 (by omega)).2 ((Nat.log2_self_le none).trans h)
  rcases order.lt_or_eq with further | same
  · calc nearestWhole a ≤ 2 ^ (a.log2 + 1) := nearestWhole_le_two_pow Nat.lt_log2_self
      _ ≤ 2 ^ b.log2 := Nat.pow_le_pow_right (by decide) further
      _ ≤ nearestWhole b := two_pow_le_nearestWhole (Nat.log2_self_le (by omega))
  · have step : spacing a = spacing b := by rw [spacing, spacing, same]
    have pos := spacing_pos b
    rw [nearestWhole, nearestWhole, step]
    exact Nat.mul_le_mul_right _
      ((isNearest_roundDiv a pos).le pos (isNearest_roundDiv b pos) h)

end Units

section Decimals
variable {den : Nat}

/-- The double nearest to a decimal gives the decimal back. -/
def Survives (num den : Nat) : Prop :=
  roundedUnits num den < overflowUnits ∧ IsNearest (roundedUnits num den * den) unitsPerOne num

/-- A decimal of few digits is given back: the double is closer to it than half its last place. -/
theorem survives_of_lt {num : Nat} (pos : 0 < den) (room : den < unitsPerOne)
    (small : num < 2 ^ 52) : Survives num den := by
  have one := unitsPerOne_pos
  have fine : den * spacing (num * unitsPerOne / den) < unitsPerOne := by
    rcases spacing_cases (num * unitsPerOne / den) with single | part
    · rw [single, Nat.mul_one]
      exact room
    · have whole := Nat.div_mul_le_self (num * unitsPerOne) den
      generalize spacing (num * unitsPerOne / den) = step at *
      have scaled : den * step * 2 ^ 52 ≤ num * unitsPerOne := by
        rw [Nat.mul_assoc, Nat.mul_comm den]
        exact Nat.le_trans (Nat.mul_le_mul_right den part) whole
      have below : num * unitsPerOne < unitsPerOne * 2 ^ 52 := by
        rw [Nat.mul_comm]
        exact Nat.mul_lt_mul_of_pos_left small one
      exact Nat.lt_of_mul_lt_mul_right (Nat.lt_of_le_of_lt scaled below)
  constructor
  · exact roundedUnits_lt_overflowUnits pos small (by decide)
  · have near := roundedUnits_bounds num pos
    unfold IsNearest
    omega

/-- Of the decimals with sixteen digits, some are not given back, whatever their last place: the
doubles are too far apart. -/
theorem exists_not_survives (pos : 0 < den) : ∃ num < 10 ^ 16, ¬ Survives num den := by
  by_contra! all
  let first := 9500000000000000
  have kept (k : Nat) (hk : k ≤ 20) : Survives (first + k) den := all _ (by omega)
  -- neighbouring decimals have neighbouring doubles, none of which is shared
  have apart (k : Nat) (hk : k ≤ 20) :
      roundedUnits first den + k * spacing (roundedUnits first den) ≤
        roundedUnits (first + k) den := by
    induction k with
    | zero => simp
    | succ k ih =>
      have before := ih (by omega)
      have here := kept k (by omega)
      have next := kept (k + 1) hk
      have above : roundedUnits (first + k) den < roundedUnits (first + (k + 1)) den := by
        by_contra less
        have same := next.2.le unitsPerOne_pos here.2 (Nat.mul_le_mul_right den (Nat.not_lt.1 less))
        omega
      have grid {j : Nat} (hj : j ≤ 20)
          (up : roundedUnits first den ≤ roundedUnits (first + j) den) :
          spacing (roundedUnits first den) ∣ roundedUnits (first + j) den :=
        (spacing_dvd_spacing up).trans (spacing_dvd (representable_roundedUnits (kept j hj).1))
      have step : spacing (roundedUnits first den) ≤
          roundedUnits (first + (k + 1)) den - roundedUnits (first + k) den := by
        apply Nat.le_of_dvd (Nat.sub_pos_of_lt above)
        exact Nat.dvd_sub (grid hk (by omega)) (grid (by omega) (by omega))
      rw [Nat.add_one_mul]
      omega
  have one := unitsPerOne_pos
  have small := (Nat.div_lt_iff_lt_mul (spacing_pos _)).1 (div_spacing_lt (roundedUnits first den))
  have low := (kept 0 (by decide)).2.bounds
  have high := (kept 20 le_rfl).2.bounds
  have last := Nat.mul_le_mul_right den (apart 20 le_rfl)
  have start := Nat.mul_lt_mul_of_pos_right small pos
  rw [Nat.add_mul, Nat.mul_assoc] at last
  rw [Nat.mul_assoc] at start
  generalize roundedUnits first den * den = x at *
  generalize spacing (roundedUnits first den) * den = gap at *
  simp only [first, Nat.add_zero] at *
  omega

end Decimals

end TableLoad.Number
