import TableLoad.Cell.Value
import TableLoad.Sql.Insert
import TableLoad.Proofs.Number.Decimals

/-! # Decimals in cells

What is left of a decimal that a text gives, once it is a double and is written with the places of
its column.  Up to fifteen digits nothing is lost.  From sixteen digits on the doubles are too far
apart, and the literal denotes another number wherever the nearest double is nearer to that one.
-/
namespace TableLoad
open Text Number Sql

section Reading
variable (w : DecimalNumeral)

theorem withPoint_chars : withPoint w.chars = w.pointed.chars := by
  by_cases comma : w.separator = [',']
  · have point : '.' ∉ w.chars := by
      rw [w.mem_chars_iff (.inl rfl), comma]
      decide
    have plain {s : List Char} (free : ∀ c ∈ s, c.isDigit = true ∨ c = '+' ∨ c = '-') :
        s.map (fun c => if c == ',' then '.' else c) = s := by
      refine (List.map_congr_left fun c hc => ?_).trans (List.map_id s)
      have other : c ≠ ',' := by
        rintro rfl
        exact absurd (free _ hc) (by decide)
      simp [other]
    have marked := (w.mem_chars_iff (.inr rfl)).2 comma
    rw [withPoint, if_pos (by simp [marked, point]), DecimalNumeral.chars, List.map_append,
      List.map_append, List.map_append, plain fun c hc => .inr (w.mem_sign hc),
      plain fun c hc => .inl (w.isWhole c hc), plain fun c hc => .inl (w.isFraction c hc), comma]
    simp [DecimalNumeral.pointed, DecimalNumeral.chars, comma]
  · have free : ',' ∉ w.chars := fun h => comma ((w.mem_chars_iff (.inr rfl)).1 h)
    rw [withPoint, if_neg (by simp [free])]
    simp [DecimalNumeral.pointed, DecimalNumeral.chars, comma]

/-- A decimal text is read as the double nearest to it, if that is finite. -/
theorem decimal?_chars : decimal? w.chars =
    (some (.ofRatio w.isNegative w.coefficient (10 ^ w.places))).filter Binary64.isFinite := by
  rw [decimal?, withPoint_chars, w.pointed.binary64_ofChars?_chars w.separator_pointed]
  rfl

end Reading

/-- The number that a literal denotes. -/
def denoted? (s : String) : Option ℚ := (Numeral.ofChars? s.toList).map Numeral.value

/-- The text has a value in columns of the precision, and the literals of the value in all dialects
denote the number. -/
def IsExactIn (p : Precision) (s : String) (x : ℚ) : Prop :=
  ∃ v, (Cell.text s).value (.decimal (some p)) = .ok v ∧
    ∀ d : Dialect, denoted? (d.literal (.decimal (some p)) v) = some x

namespace Number.DecimalNumeral
variable (w : DecimalNumeral) (p : Precision)

/-- The decimal has no more digits than the precision, before and behind its separator; zeros in
front do not count. -/
structure Fits : Prop where
  whole : (significant w.whole).length ≤ p.digits.toNat - p.scale.toNat
  places : w.places ≤ p.scale.toNat

/-- The decimal in units of the last place of the precision. -/
def count : Nat := w.coefficient * 10 ^ (p.scale.toNat - w.places)

variable {w p}

/-- Zeros put behind a decimal up to the scale of the precision. -/
theorem Fits.scale_eq (h : w.Fits p) :
    (10 : Nat) ^ w.places * 10 ^ (p.scale.toNat - w.places) = 10 ^ p.scale.toNat := by
  rw [← Nat.pow_add, Nat.add_sub_cancel' h.places]

theorem Fits.count_lt (h : w.Fits p) (room : p.scale ≤ p.digits) :
    w.count p < 10 ^ p.digits.toNat := by
  have whole := (length_significant_le_iff w.isWhole).1 h.whole
  have fraction := ofDigitChars_lt w.isFraction
  have total : w.coefficient < 10 ^ (p.digits.toNat - p.scale.toNat) * 10 ^ w.places := by
    have unit := Nat.mul_le_mul_right (10 ^ w.places) (Nat.succ_le_of_lt whole)
    rw [Nat.succ_mul] at unit
    rw [coefficient_eq]
    exact Nat.lt_of_lt_of_le (Nat.add_lt_add_left fraction _) unit
  have some : 0 < (10 : Nat) ^ (p.scale.toNat - w.places) := Nat.pow_pos (by decide)
  calc w.count p < 10 ^ (p.digits.toNat - p.scale.toNat) * 10 ^ w.places *
        10 ^ (p.scale.toNat - w.places) := Nat.mul_lt_mul_of_pos_right total some
    _ = 10 ^ (p.digits.toNat - p.scale.toNat) * 10 ^ p.scale.toNat := by
      rw [Nat.mul_assoc, h.scale_eq]
    _ = 10 ^ p.digits.toNat := by
      rw [← Nat.pow_add, Nat.sub_add_cancel (UInt16.le_iff_toNat_le.1 room)]

theorem Fits.value_eq (h : w.Fits p) :
    w.value = (if w.isNegative then -1 else 1) * ((w.count p : ℚ) / 10 ^ p.scale.toNat) := by
  have unit : (10 : ℚ) ^ (p.scale.toNat - w.places) ≠ 0 := pow_ne_zero _ (by norm_num)
  have size : (w.count p : ℚ) / 10 ^ p.scale.toNat = w.coefficient / 10 ^ w.places := by
    have scale : (10 : ℚ) ^ p.scale.toNat = 10 ^ w.places * 10 ^ (p.scale.toNat - w.places) := by
      exact_mod_cast h.scale_eq.symm
    rw [count, scale]
    push_cast
    exact mul_div_mul_right _ _ unit
  rw [size, value]
  split <;> simp

end Number.DecimalNumeral

section Literals
variable {w : DecimalNumeral} {p : Precision}

/-- A literal of a fixed count of places denotes the rounded multiple of its last place. -/
theorem denoted?_fixedText {negative : Bool} {units : Nat} (fits : Representable units)
    (places : Nat) : denoted? ((Binary64.finite negative units fits).fixedText places) =
      some ((if negative then -1 else 1) *
        ((roundDiv .toEven (units * 10 ^ places) unitsPerOne : ℚ) / 10 ^ places)) := by
  generalize rounded : roundDiv .toEven (units * 10 ^ places) unitsPerOne = count
  rw [denoted?, Binary64.fixedText, String.toList_ofList, Binary64.fixedChars_finite, rounded,
    DecimalNumeral.value_ofChars? _ (DecimalNumeral.fixed_pointed negative count places),
    DecimalNumeral.value,
    DecimalNumeral.fixed_coefficient, DecimalNumeral.fixed_places,
    DecimalNumeral.fixed_isNegative]
  cases negative <;> simp

theorem ofRatio_of_fits (h : w.Fits p) :
    Binary64.ofRatio w.isNegative w.coefficient (10 ^ w.places) =
      .ofRatio w.isNegative (w.count p) (10 ^ p.scale.toNat) := by
  have unit : 0 < (10 : Nat) ^ (p.scale.toNat - w.places) := Nat.pow_pos (by decide)
  rw [← h.scale_eq, DecimalNumeral.count, Binary64.ofRatio_mul_right _ _ _ unit]

theorem value_of_fits (h : w.Fits p) {s : String} (written : trimmed s.toList = w.chars) :
    (Cell.text s).value (.decimal (some p)) =
      if finite : roundedUnits (w.count p) (10 ^ p.scale.toNat) < overflowUnits then
        .ok (.decimal (.finite w.isNegative _ (representable_roundedUnits finite)))
      else .error (.notNumber s) := by
  have read : (Cell.text s).value (.decimal (some p)) =
      (((decimal? (trimmed s.toList)).map Value.decimal).elim (.error (.notNumber s)) .ok) := rfl
  rw [read, written, decimal?_chars, ofRatio_of_fits h]
  by_cases finite : roundedUnits (w.count p) (10 ^ p.scale.toNat) < overflowUnits
  · rw [dif_pos finite, Binary64.ofRatio_of_finite _ finite]
    rfl
  · rw [dif_neg finite, Binary64.ofRatio_of_large _ (Nat.not_lt.1 finite)]
    rfl

/-- A decimal text is exact in a column when its last place survives rounding to a double. -/
theorem isExactIn_iff_survives (h : w.Fits p) {s : String} (written : trimmed s.toList = w.chars) :
    IsExactIn p s w.value ↔ Survives (w.count p) (10 ^ p.scale.toNat) := by
  have unit : (10 : ℚ) ^ p.scale.toNat ≠ 0 := pow_ne_zero _ (by norm_num)
  rw [IsExactIn, value_of_fits h written, Survives]
  by_cases finite : roundedUnits (w.count p) (10 ^ p.scale.toNat) < overflowUnits
  · have literal (d : Dialect) (x : Binary64) : d.literal (.decimal (some p)) (.decimal x) =
        x.fixedText p.scale.toNat := rfl
    rw [dif_pos finite, ← roundDiv_eq_iff unitsPerOne_pos]
    have dialects : Nonempty Dialect := ⟨.mysql⟩
    have sign : (if w.isNegative then -1 else 1 : ℚ) ≠ 0 := by split <;> norm_num
    simp only [Except.ok.injEq, exists_eq_left', literal, denoted?_fixedText, h.value_eq,
      Option.some.injEq, forall_const, finite, true_and]
    rw [mul_right_inj' sign, div_left_inj' unit, Nat.cast_inj]
  · simp [finite]

/-- The nearest double is not further from the decimal than half the last place of the precision,
and the last digit is even if it is just as far. -/
def Number.DecimalNumeral.IsNear (w : DecimalNumeral) (p : Precision) : Prop :=
  ∃ x, (Binary64.ofRatio w.isNegative w.coefficient (10 ^ w.places)).exactValue? = some x ∧
    (|x - w.value| < 1 / 2 / 10 ^ p.scale.toNat ∨
      |x - w.value| = 1 / 2 / 10 ^ p.scale.toNat ∧ Even (w.count p))

theorem survives_iff_isNear (h : w.Fits p) :
    Survives (w.count p) (10 ^ p.scale.toNat) ↔ w.IsNear p := by
  have unit : (0 : ℚ) < 10 ^ p.scale.toNat := pow_pos (by norm_num) _
  rw [Survives, DecimalNumeral.IsNear, ofRatio_of_fits h, isNearest_iff_abs unitsPerOne_pos]
  by_cases finite : roundedUnits (w.count p) (10 ^ p.scale.toNat) < overflowUnits
  · rw [Binary64.ofRatio_of_finite _ finite]
    generalize representable_roundedUnits finite = fits
    generalize roundedUnits (w.count p) (10 ^ p.scale.toNat) = units at *
    have exact : (Binary64.finite w.isNegative units fits).exactValue? =
        some ((if w.isNegative then -1 else 1) * ((units : ℚ) / unitsPerOne)) := by
      rw [Binary64.exactValue?]
      generalize (units : ℚ) / unitsPerOne = size
      cases w.isNegative <;> simp
    have sign : |(if w.isNegative then -1 else 1 : ℚ)| = 1 := by split <;> simp
    have scaled : (units : ℚ) / unitsPerOne - w.count p / 10 ^ p.scale.toNat =
        ((units * 10 ^ p.scale.toNat : Nat) / unitsPerOne - w.count p) / 10 ^ p.scale.toNat := by
      rw [sub_div, Nat.cast_mul, Nat.cast_pow, Nat.cast_ofNat, div_right_comm,
        mul_div_cancel_right₀ _ unit.ne']
    simp only [exact, Option.some.injEq, exists_eq_left', finite, true_and]
    rw [h.value_eq, ← mul_sub, abs_mul, sign, one_mul, scaled, abs_div, abs_of_pos unit,
      div_lt_div_iff_of_pos_right unit, div_left_inj' unit.ne']
  · rw [Binary64.ofRatio_of_large _ (Nat.not_lt.1 finite)]
    constructor
    · intro survives
      exact absurd survives.1 finite
    · rintro ⟨x, infinite, -⟩
      cases infinite

/-- Up to fifteen digits the nearest double is near enough. -/
theorem survives_of_few_digits (room : p.scale ≤ p.digits) (few : p.digits.toNat ≤ 15)
    (h : w.Fits p) : Survives (w.count p) (10 ^ p.scale.toNat) := by
  have places := UInt16.le_iff_toNat_le.1 room
  have ten : 0 < 10 := by decide
  apply survives_of_lt (Nat.pow_pos ten)
  · calc 10 ^ p.scale.toNat ≤ 10 ^ 15 := Nat.pow_le_pow_right ten (places.trans few)
      _ < unitsPerOne := by decide +kernel
  · calc w.count p < 10 ^ p.digits.toNat := h.count_lt room
      _ ≤ 10 ^ 15 := Nat.pow_le_pow_right ten few
      _ < 2 ^ 52 := by decide

/-- Every count of units is that of a decimal, which fits if the count is small enough. -/
theorem fits_fixed {num : Nat} (room : p.scale ≤ p.digits) (small : num < 10 ^ p.digits.toNat) :
    (DecimalNumeral.fixed false num p.scale.toNat).Fits p ∧
      (DecimalNumeral.fixed false num p.scale.toNat).count p = num := by
  have places := DecimalNumeral.fixed_places false num p.scale.toNat
  have coefficient := DecimalNumeral.fixed_coefficient false num p.scale.toNat
  generalize DecimalNumeral.fixed false num p.scale.toNat = w at *
  constructor
  · refine ⟨?_, places.le⟩
    rw [length_significant_le_iff w.isWhole]
    -- the digits before the point, put in front of as many places, are no more than the count
    apply Nat.lt_of_mul_lt_mul_right (a := 10 ^ p.scale.toNat)
    rw [← Nat.pow_add, Nat.sub_add_cancel (UInt16.le_iff_toNat_le.1 room)]
    rw [w.coefficient_eq, places] at coefficient
    omega
  · rw [DecimalNumeral.count, places, Nat.sub_self, Nat.pow_zero, Nat.mul_one, coefficient]

end Literals

namespace Cell
variable {p : Precision}

/-- The literals of a decimal text denote the number that the text does, exactly if the nearest
double is near enough to it.  That is so of all texts that fit just in columns of no more than
fifteen digits. -/
theorem text_value_decimal_exact_iff (room : p.scale ≤ p.digits) :
    (∀ (w : DecimalNumeral) (s : String), trimmed s.toList = w.chars → w.Fits p →
      (IsExactIn p s w.value ↔ w.IsNear p)) ∧
    ((∀ (w : DecimalNumeral) (s : String), trimmed s.toList = w.chars → w.Fits p →
      IsExactIn p s w.value) ↔ p.digits.toNat ≤ 15) := by
  constructor
  · intro w s written h
    exact (isExactIn_iff_survives h written).trans (survives_iff_isNear h)
  · constructor
    · intro exact
      by_contra many
      have unit : 0 < (10 : Nat) ^ p.scale.toNat := Nat.pow_pos (by decide)
      obtain ⟨num, small, lost⟩ := exists_not_survives unit
      have below : num < 10 ^ p.digits.toNat :=
        Nat.lt_of_lt_of_le small (Nat.pow_le_pow_right (by decide) (Nat.not_le.1 many))
      obtain ⟨fits, count⟩ := fits_fixed room below
      have written : trimmed
          (String.ofList (DecimalNumeral.fixed false num p.scale.toNat).chars).toList =
            (DecimalNumeral.fixed false num p.scale.toNat).chars := by
        rw [String.toList_ofList, DecimalNumeral.trimmed_chars]
      have kept := (isExactIn_iff_survives fits written).1 (exact _ _ written fits)
      rw [count] at kept
      exact lost kept
    · intro few w s written h
      exact (isExactIn_iff_survives h written).2 (survives_of_few_digits room few h)

/-- A decimal of eighteen digits whose last ones a double still has. -/
theorem text_value_decimal_exact_past_digits : ∃ w : DecimalNumeral,
    trimmed " -1234567890123456,5 ".toList = w.chars ∧ w.Fits ⟨18, 2⟩ ∧
      w.value = -12345678901234565 / 10 ∧ IsExactIn ⟨18, 2⟩ " -1234567890123456,5 " w.value := by
  let w : DecimalNumeral :=
    { sign := ['-']
      whole := "1234567890123456".toList
      separator := [',']
      fraction := ['5']
      isSign := by decide
      isWhole := by decide
      isSeparator := by decide
      isFraction := by decide
      filled := by decide }
  have written : trimmed " -1234567890123456,5 ".toList = w.chars := by decide
  have fits : w.Fits ⟨18, 2⟩ := ⟨by decide, by decide⟩
  have coefficient : w.coefficient = 12345678901234565 := by decide
  have value : w.value = -12345678901234565 / 10 := by
    rw [DecimalNumeral.value, coefficient]
    norm_num [DecimalNumeral.isNegative, DecimalNumeral.places, w]
  have near : w.IsNear ⟨18, 2⟩ := by
    rw [← survives_iff_isNear fits, Survives, IsNearest]
    decide +kernel
  have exact := ((text_value_decimal_exact_iff (by decide)).1 w _ written fits).2 near
  exact ⟨w, written, fits, value, exact⟩

/-- The last places of a decimal that fits are lost. -/
theorem text_value_decimal_rounded :
    (∃ w : DecimalNumeral, trimmed "1234567890123456.78".toList = w.chars ∧ w.Fits ⟨18, 2⟩ ∧
      ¬ IsExactIn ⟨18, 2⟩ "1234567890123456.78" w.value) ∧
    ∀ d : Dialect, ((text "1234567890123456.78").value (.decimal (some ⟨18, 2⟩))).map
      (d.literal (.decimal (some ⟨18, 2⟩))) = .ok "1234567890123456.75" := by
  constructor
  · let w : DecimalNumeral :=
      { sign := []
        whole := "1234567890123456".toList
        separator := ['.']
        fraction := "78".toList
        isSign := by decide
        isWhole := by decide
        isSeparator := by decide
        isFraction := by decide
        filled := by decide }
    have written : trimmed "1234567890123456.78".toList = w.chars := by decide
    have fits : w.Fits ⟨18, 2⟩ := ⟨by decide, by decide⟩
    refine ⟨w, written, fits, ?_⟩
    rw [isExactIn_iff_survives fits written, Survives, IsNearest]
    decide +kernel
  · intro d
    cases d <;> decide +kernel

end Cell

end TableLoad
