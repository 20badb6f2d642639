import TableLoad.Proofs.Number.Digits
import TableLoad.Proofs.Number.Nearest
import TableLoad.Proofs.Text.Blank
import TableLoad.Proofs.Text.Case
import TableLoad.Proofs.Text.Scan

/-! # Decimals in texts

A decimal is written with a sign, digits and a separator.  It is read exactly and then rounded to
the nearest double, however many digits it has.  A double printed with a fixed count of places is
such a decimal.
-/
namespace TableLoad.Number

theorem length_digits_le_iff {n width : Nat} (pos : 0 < width) :
    (digits n).length ≤ width ↔ n < 10 ^ width :=
  Nat.length_toDigits_le_iff (by decide) pos

theorem lt_ten_pow_length_digits (n : Nat) : n < 10 ^ (digits n).length :=
  (length_digits_le_iff (List.length_pos_iff.2 (digits_ne_nil n))).1 le_rfl

theorem ten_pow_le_of_lt_length {n width : Nat} (filled : n ≠ 0)
    (h : width < (digits n).length) : 10 ^ width ≤ n := by
  rcases Nat.eq_zero_or_pos width with rfl | pos
  · exact Nat.pos_of_ne_zero filled
  · rwa [← Nat.not_lt, ← length_digits_le_iff pos, Nat.not_le]

/-- The digits of a text stand for less than the power of ten of their count. -/
theorem ofDigitChars_lt {s : List Char} (all : ∀ c ∈ s, c.isDigit = true) :
    Nat.ofDigitChars 10 s 0 < 10 ^ s.length := by
  induction s with
  | nil => simp
  | cons c s ih =>
    rw [List.forall_mem_cons, Char.isDigit_iff_toNat] at all
    have rest := ih all.2
    have first : c.toNat - '0'.toNat ≤ 9 := by
      have := all.1.2
      simp only [Char.reduceToNat] at this ⊢
      omega
    rw [Nat.ofDigitChars_cons, Nat.ofDigitChars_eq_ofDigitChars_zero, Nat.mul_zero, Nat.zero_add,
      List.length_cons, Nat.pow_succ]
    have scaled := Nat.mul_le_mul_left (10 ^ s.length) first
    omega

/-- The digits of a text that count: those behind the zeros in front. -/
def significant (s : List Char) : List Char := s.dropWhile (· == '0')

/-- A number is below a power of ten when it has no more digits that count. -/
theorem length_significant_le_iff {s : List Char} (all : ∀ c ∈ s, c.isDigit = true) {width : Nat} :
    (significant s).length ≤ width ↔ Nat.ofDigitChars 10 s 0 < 10 ^ width := by
  induction s with
  | nil => simp [significant]
  | cons c s ih =>
    by_cases zero : c = '0'
    · rw [List.forall_mem_cons] at all
      simpa [significant, zero, Nat.ofDigitChars_cons] using ih all.2
    · have cut : significant (c :: s) = c :: s := by simp [significant, zero]
      have below := ofDigitChars_lt all
      have first : 1 ≤ c.toNat - '0'.toNat := by
        have digit := all c List.mem_cons_self
        have apart : c.toNat ≠ '0'.toNat := fun he => zero (Char.toNat_inj.1 he)
        rw [Char.isDigit_iff_toNat] at digit
        omega
      rw [cut]
      constructor
      · exact fun few => Nat.lt_of_lt_of_le below (Nat.pow_le_pow_right (by decide) few)
      · intro small
        rw [Nat.ofDigitChars_cons, Nat.ofDigitChars_eq_ofDigitChars_zero, Nat.mul_zero,
          Nat.zero_add] at small
        have large := Nat.mul_le_mul_left (10 ^ s.length) first
        have powers : (10 : Nat) ^ s.length < 10 ^ width := by omega
        rw [List.length_cons]
        exact (Nat.pow_lt_pow_iff_right (a := 10) (by decide)).1 powers

namespace Binary64

theorem ofRatio_mul_right (negative : Bool) (num den : Nat) {scale : Nat} (pos : 0 < scale) :
    ofRatio negative (num * scale) (den * scale) = ofRatio negative num den := by
  simp only [ofRatio, roundedUnits_mul_right _ _ pos]

theorem ofRatio_of_finite (negative : Bool) {num den : Nat}
    (h : roundedUnits num den < overflowUnits) :
    ofRatio negative num den = .finite negative _ (representable_roundedUnits h) :=
  dif_pos h

theorem ofRatio_of_large (negative : Bool) {num den : Nat}
    (h : overflowUnits ≤ roundedUnits num den) : ofRatio negative num den = .infinity negative :=
  dif_neg (Nat.not_lt.2 h)

/-- Quotients that are rounded to the same count are the same number. -/
theorem ofRatio_congr (negative : Bool) {num den num' den' : Nat}
    (h : roundedUnits num den = roundedUnits num' den') :
    ofRatio negative num den = ofRatio negative num' den' := by
  simp only [ofRatio, h]

/-- No word is taken for a number that begins with a digit or a point. -/
theorem ofChars?_of_lt_letters {s rest : List Char} {negative : Bool} {c : Char}
    (h : signed s = (negative, c :: rest)) (before : c.toNat < 0x41) :
    ofChars? s = (Numeral.ofChars? s).map Numeral.toBinary64 := by
  have lower : c.toLower = c := Text.toLower_eq_self (.inl before)
  have apart {word : String} (letter : word.toList.head?.any (·.toNat < 0x41) = false) :
      String.ofList ((c :: rest).map Char.toLower) ≠ word := by
    rintro rfl
    rw [String.toList_ofList, List.map_cons, lower, List.head?_cons, Option.any_some,
      decide_eq_true before] at letter
    cases letter
  rw [ofChars?, h]
  dsimp only
  split
  · rename_i word
    exact absurd word (apart (by decide))
  · rename_i word
    exact absurd word (apart (by decide))
  · rename_i word
    exact absurd word (apart (by decide))
  · rfl

end Binary64

section Range
variable {n width places margin : Nat}

/-- A decimal that begins far behind the point is rounded to zero. -/
theorem roundedUnits_of_tiny (unit : 2 * unitsPerOne < 10 ^ margin) (below : n < 10 ^ width)
    (far : width + margin ≤ places) : roundedUnits n (10 ^ places) = 0 := by
  have pos := unitsPerOne_pos
  apply roundedUnits_eq_zero
  generalize unitsPerOne = one at *
  calc 2 * (n * one) = n * (2 * one) := Nat.mul_left_comm 2 n one
    _ < 10 ^ width * (2 * one) := Nat.mul_lt_mul_of_pos_right below (by omega)
    _ ≤ 10 ^ width * 10 ^ margin := Nat.mul_le_mul_left _ unit.le
    _ = 10 ^ (width + margin) := (Nat.pow_add ..).symm
    _ ≤ 10 ^ places := Nat.pow_le_pow_right (by decide) far

/-- A decimal with many digits before the point is infinite. -/
theorem overflowUnits_le_of_huge (unit : overflowUnits ≤ 10 ^ margin * unitsPerOne)
    (above : 10 ^ (margin + places) ≤ n) : overflowUnits ≤ roundedUnits n (10 ^ places) := by
  apply overflowUnits_le_roundedUnits (Nat.pow_pos (by decide))
  calc overflowUnits * 10 ^ places ≤ 10 ^ margin * unitsPerOne * 10 ^ places :=
      Nat.mul_le_mul_right _ unit
    _ = 10 ^ (margin + places) * unitsPerOne := by rw [Nat.mul_right_comm, ← Nat.pow_add]
    _ ≤ n * unitsPerOne := Nat.mul_le_mul_right _ above

end Range

theorem two_units_lt_ten_pow : 2 * unitsPerOne < 10 ^ 330 := by decide +kernel

theorem overflowUnits_le_ten_pow : overflowUnits ≤ 10 ^ 310 * unitsPerOne := by decide +kernel

namespace Numeral

/-- The shortcuts for decimals out of range change nothing. -/
theorem toBinary64_eq (n : Numeral) : n.toBinary64 =
    .ofRatio n.negative (n.coefficient * 10 ^ n.exponent.toNat) (10 ^ (-n.exponent).toNat) := by
  have zero {den : Nat} (pos : 0 < den) : roundedUnits 0 den = 0 :=
    roundedUnits_eq_zero (by rwa [Nat.zero_mul, Nat.mul_zero])
  have unit : 0 < (10 : Nat) ^ (-n.exponent).toNat := Nat.pow_pos (by decide)
  rw [toBinary64]
  by_cases filled : n.coefficient = 0
  · rw [if_pos (by simp [filled]), filled, Nat.zero_mul]
    exact Binary64.ofRatio_congr _ ((zero Nat.one_pos).trans (zero unit).symm)
  have some := List.length_pos_iff.2 (digits_ne_nil n.coefficient)
  have below := lt_ten_pow_length_digits n.coefficient
  have above {width : Nat} := @ten_pow_le_of_lt_length _ width filled
  generalize (digits n.coefficient).length = length at *
  by_cases tiny : (length : Int) + n.exponent < -330
  · have whole : n.exponent.toNat = 0 := by omega
    rw [if_pos (by simp [tiny]), whole, Nat.pow_zero, Nat.mul_one]
    apply Binary64.ofRatio_congr
    rw [zero Nat.one_pos, roundedUnits_of_tiny two_units_lt_ten_pow below (by omega)]
  rw [if_neg (by simp [filled, tiny])]
  split
  · rename_i huge
    refine (Binary64.ofRatio_of_large _ (overflowUnits_le_of_huge overflowUnits_le_ten_pow ?_)).symm
    -- the digits before the point are those of the coefficient and those that the exponent adds
    obtain ⟨width, enough, more⟩ : ∃ width < length,
        310 + (-n.exponent).toNat ≤ width + n.exponent.toNat := ⟨length - 1, by omega, by omega⟩
    calc 10 ^ (310 + (-n.exponent).toNat) ≤ 10 ^ (width + n.exponent.toNat) :=
        Nat.pow_le_pow_right (by decide) more
      _ = 10 ^ width * 10 ^ n.exponent.toNat := Nat.pow_add ..
      _ ≤ n.coefficient * 10 ^ n.exponent.toNat := Nat.mul_le_mul_right _ (above enough)
  · rfl

def value (n : Numeral) : ℚ :=
  let size : ℚ := n.coefficient * (10 : ℚ) ^ n.exponent
  if n.negative then -size else size

end Numeral

/-- A decimal as a text may write it: a sign, digits, and perhaps a point or comma with digits. -/
structure DecimalNumeral where
  sign : List Char
  whole : List Char
  separator : List Char
  fraction : List Char
  isSign : sign = [] ∨ sign = ['+'] ∨ sign = ['-']
  isWhole : ∀ c ∈ whole, c.isDigit = true
  isSeparator : separator = ['.'] ∨ separator = [','] ∨ separator = [] ∧ fraction = []
  isFraction : ∀ c ∈ fraction, c.isDigit = true
  filled : whole ++ fraction ≠ []

namespace DecimalNumeral
variable (w : DecimalNumeral)

def chars : List Char := w.sign ++ (w.whole ++ (w.separator ++ w.fraction))

def isNegative : Bool := w.sign == ['-']

def coefficient : Nat := Nat.ofDigitChars 10 (w.whole ++ w.fraction) 0

def places : Nat := w.fraction.length

def value : ℚ :=
  let size : ℚ := w.coefficient / 10 ^ w.places
  if w.isNegative then -size else size

theorem isDigit : ∀ c ∈ w.whole ++ w.fraction, c.isDigit = true := by
  intro c hc
  exact (List.mem_append.1 hc).elim (w.isWhole c) (w.isFraction c)

theorem coefficient_eq : w.coefficient =
    Nat.ofDigitChars 10 w.whole 0 * 10 ^ w.places + Nat.ofDigitChars 10 w.fraction 0 := by
  rw [coefficient, Nat.ofDigitChars_append, Nat.ofDigitChars_eq_ofDigitChars_zero, Nat.mul_comm]
  rfl

def pointed : DecimalNumeral :=
  { w with
    separator := if w.separator = [','] then ['.'] else w.separator
    isSeparator := by
      split
      · exact .inl rfl
      · exact w.isSeparator }

theorem separator_pointed : w.pointed.separator ≠ [','] := by
  unfold pointed
  dsimp only
  split
  · simp
  · assumption

theorem mem_sign {c : Char} (h : c ∈ w.sign) : c = '+' ∨ c = '-' := by
  rcases w.isSign with none | plus | minus
  · simp [none] at h
  · exact .inl (List.mem_singleton.1 (plus ▸ h))
  · exact .inr (List.mem_singleton.1 (minus ▸ h))

theorem mem_separator {c : Char} (h : c ∈ w.separator) : c = '.' ∨ c = ',' := by
  rcases w.isSeparator with point | comma | ⟨none, -⟩
  · exact .inl (List.mem_singleton.1 (point ▸ h))
  · exact .inr (List.mem_singleton.1 (comma ▸ h))
  · simp [none] at h

theorem mem_chars {c : Char} (h : c ∈ w.chars) :
    c.isDigit = true ∨ c = '+' ∨ c = '-' ∨ c ∈ w.separator := by
  simp only [chars, List.mem_append] at h
  rcases h with h | h | h | h
  · exact .inr ((w.mem_sign h).imp_right .inl)
  · exact .inl (w.isWhole c h)
  · exact .inr (.inr (.inr h))
  · exact .inl (w.isFraction c h)

theorem mem_chars_iff {c : Char} (mark : c = '.' ∨ c = ',') :
    c ∈ w.chars ↔ w.separator = [c] := by
  constructor
  · intro h
    rcases w.mem_chars h with digit | rfl | rfl | h
    · rcases mark with rfl | rfl <;> exact absurd digit (by decide)
    · exact absurd mark (by decide)
    · exact absurd mark (by decide)
    · rcases w.isSeparator with point | comma | ⟨none, -⟩
      · rw [point] at h ⊢
        rw [List.mem_singleton.1 h]
      · rw [comma] at h ⊢
        rw [List.mem_singleton.1 h]
      · simp [none] at h
  · intro h
    simp [chars, h]

theorem trimmed_chars : Text.trimmed w.chars = w.chars := by
  apply Text.trimmed_of_no_blank
  intro c hc
  rcases w.mem_chars hc with digit | rfl | rfl | hc
  · exact Text.not_isBlank_of_isDigit digit
  · decide
  · decide
  · rcases w.mem_separator hc with rfl | rfl
    · decide
    · decide

theorem exists_body_eq : ∃ c rest, w.whole ++ (w.separator ++ w.fraction) = c :: rest ∧
    (c.isDigit = true ∨ c = '.' ∨ c = ',') := by
  cases hw : w.whole with
  | cons c rest => exact ⟨c, _, rfl, .inl (w.isWhole c (hw ▸ List.mem_cons_self))⟩
  | nil =>
    rcases w.isSeparator with point | comma | ⟨-, none⟩
    · exact ⟨'.', w.fraction, by rw [point]; rfl, by simp⟩
    · exact ⟨',', w.fraction, by rw [comma]; rfl, by simp⟩
    · exact absurd (by rw [hw, none]; rfl) w.filled

theorem signed_chars : signed w.chars = (w.isNegative, w.whole ++ (w.separator ++ w.fraction)) := by
  obtain ⟨c, rest, body, first⟩ := w.exists_body_eq
  have minus : c ≠ '-' := by
    rintro rfl
    exact absurd first (by decide)
  have plus : c ≠ '+' := by
    rintro rfl
    exact absurd first (by decide)
  rw [chars, isNegative, body]
  rcases w.isSign with none | plus | minus
  · rw [none]
    exact signed_cons ‹_› ‹_› rest
  · rw [plus]
    rfl
  · rw [minus]
    rfl

theorem ofChars?_chars (pointed : w.separator ≠ [',']) : Numeral.ofChars? w.chars =
    some ⟨w.isNegative, w.coefficient, -(w.places : Int)⟩ := by
  have stop : ∀ c ∈ (w.separator ++ w.fraction).head?, c.isDigit = false := by
    rcases w.isSeparator with point | comma | ⟨none, nothing⟩
    · simp [point]
    · exact absurd comma pointed
    · simp [none, nothing]
  obtain ⟨take, drop⟩ := Scan.takeWhile_append_of_stop w.isWhole stop
  have ended : ∀ c ∈ ([] : List Char).head?, c.isDigit = false := by simp
  obtain ⟨run, rest⟩ := Scan.takeWhile_append_of_stop w.isFraction ended
  rw [List.append_nil] at run rest
  have digits := nat?_of_digits w.filled w.isDigit
  rw [Numeral.ofChars?, signed_chars]
  dsimp only
  rw [Numeral.unsigned?, take, drop]
  rcases w.isSeparator with point | comma | ⟨none, nothing⟩
  · simp [point, run, rest, digits, Numeral.exponent?, coefficient, places]
  · exact absurd comma pointed
  · rw [nothing, List.append_nil] at digits
    simp [none, nothing, digits, Numeral.exponent?, coefficient, places]

/-- The exact value of what is read is the number that the text denotes. -/
theorem value_ofChars? (pointed : w.separator ≠ [',']) :
    (Numeral.ofChars? w.chars).map Numeral.value = some w.value := by
  rw [w.ofChars?_chars pointed, Option.map_some, Option.some.injEq]
  simp only [Numeral.value, value, zpow_neg, zpow_natCast, div_eq_mul_inv]

theorem binary64_ofChars?_chars (pointed : w.separator ≠ [',']) : Binary64.ofChars? w.chars =
    some (.ofRatio w.isNegative w.coefficient (10 ^ w.places)) := by
  obtain ⟨c, rest, body, first⟩ := w.exists_body_eq
  have signs := w.signed_chars
  rw [body] at signs
  have before : c.toNat < 0x41 := by
    rcases first with digit | rfl | rfl
    · rw [Char.isDigit_iff_toNat] at digit
      exact Nat.lt_of_le_of_lt digit.2 (by decide)
    · decide
    · decide
  rw [Binary64.ofChars?_of_lt_letters signs before, w.ofChars?_chars pointed, Option.map_some,
    Numeral.toBinary64_eq]
  have whole : (-(w.places : Int)).toNat = 0 := by omega
  have scale : (-(-(w.places : Int))).toNat = w.places := by omega
  simp only [whole, scale, Nat.pow_zero, Nat.mul_one]

/-- A count of a last place, as a number with so many places. -/
def fixed (negative : Bool) (count places : Nat) : DecimalNumeral where
  sign := if negative then ['-'] else []
  whole := (padded (places + 1) count).take ((padded (places + 1) count).length - places)
  separator := if places = 0 then [] else ['.']
  fraction := (padded (places + 1) count).drop ((padded (places + 1) count).length - places)
  isSign := by cases negative <;> simp
  isWhole c hc := isDigit_of_mem_padded (List.mem_of_mem_take hc)
  isSeparator := by
    split
    · rename_i none
      simp [none]
    · exact .inl rfl
  isFraction c hc := isDigit_of_mem_padded (List.mem_of_mem_drop hc)
  filled := by
    rw [List.take_append_drop]
    exact padded_ne_nil _ _

section
variable (negative : Bool) (count places : Nat)

theorem fixed_isNegative : (fixed negative count places).isNegative = negative := by
  cases negative <;> rfl

theorem fixed_pointed : (fixed negative count places).separator ≠ [','] := by
  unfold fixed
  dsimp only
  split <;> simp

theorem fixed_places : (fixed negative count places).places = places := by
  have long := le_length_padded (places + 1) count
  unfold fixed DecimalNumeral.places
  dsimp only
  rw [List.length_drop]
  omega

theorem fixed_coefficient : (fixed negative count places).coefficient = count := by
  have read := nat?_padded (places + 1) count
  rw [nat?_of_digits (padded_ne_nil _ _) fun _ => isDigit_of_mem_padded, Option.some.injEq] at read
  unfold fixed coefficient
  rw [List.take_append_drop, read]

end

end DecimalNumeral

/-- A double with a fixed count of places is the decimal of its rounded multiple. -/
theorem Binary64.fixedChars_finite {negative : Bool} {units : Nat} (fits : Representable units)
    (places : Nat) : (finite negative units fits).fixedChars places =
      (DecimalNumeral.fixed negative (roundDiv .toEven (units * 10 ^ places) unitsPerOne)
        places).chars := by
  unfold fixedChars DecimalNumeral.fixed DecimalNumeral.chars
  dsimp only
  by_cases none : places = 0
  · simp [none]
  · simp [none]

end TableLoad.Number
