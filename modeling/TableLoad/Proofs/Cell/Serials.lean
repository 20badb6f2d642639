import TableLoad.Cell.Value
import TableLoad.Proofs.Calendar.Serials

/-! # Spreadsheet dates in cells

Which numbers in cells are moments, and which moments these are: those of the years of four digits
from 30 December 1899 on, and the first of the year 10000 for the last serials below the limit.
-/
namespace TableLoad
open Number Calendar

namespace Calendar

theorem length_yearChars {year : Int} (first : 0 ≤ year) (last : year ≤ 9999) :
    (yearChars year).length = 4 := by
  rw [yearChars, if_neg (by omega), if_neg (by omega)]
  exact length_padded (by decide) (by omega)

/-- What is known of the moment of a serial. -/
structure IsSpreadsheetDate (v : ℚ) (m : Moment) : Prop where
  /-- It is counted from the epoch in milliseconds, to the nearest one but for a rounding error. -/
  counted : ∃ milliseconds ≤ serialLimit * millisecondsPerDay,
    |v * millisecondsPerDay - milliseconds| ≤ 17 / 32 ∧
      Moment.ofSerialMilliseconds? milliseconds = some m
  not_before_first : ¬ m.Before firstMoment
  not_after_limit : ¬ limitMoment.Before m
  /-- It is in the years of four digits exactly if half a millisecond is left to the limit. -/
  inside_iff : ¬ lastMoment.Before m ↔ LeavesHalf v
  year_iff : (yearChars m.date.year).length = 4 ↔ LeavesHalf v
  /-- Otherwise it is the first moment that is not. -/
  limit_iff : m = limitMoment ↔ ¬ LeavesHalf v

theorem isSpreadsheetDate_of_units {units : Nat} (fits : Representable units)
    (below : units ≤ serialLimit * unitsPerOne) {m : Moment}
    (h : Moment.ofSerialMilliseconds? (serialMilliseconds units) = some m) :
    IsSpreadsheetDate (units / unitsPerOne) m := by
  have most := serialMilliseconds_le_limit below
  have first := Moment.not_before_of_le ofSerialMilliseconds?_zero h (Nat.zero_le _)
  have limit := Moment.not_before_of_le h ofSerialMilliseconds?_limit most
  have counted := And.intro (serialMilliseconds_abs_le below) h
  have reached := serialMilliseconds_eq_limit_iff fits below
  rw [← Nat.not_lt, ← leavesHalf_iff below] at reached
  by_cases half : LeavesHalf ((units : ℚ) / unitsPerOne)
  · have less := most.lt_of_ne (mt reached.1 (not_not.2 half))
    have inside := Moment.not_before_of_le h ofSerialMilliseconds?_last (Nat.le_sub_one_of_lt less)
    have other : m ≠ limitMoment := by
      rintro rfl
      exact inside (by decide)
    refine ⟨⟨_, most, counted⟩, first, limit, iff_of_true inside half, iff_of_true ?_ half,
      iff_of_false other (not_not.2 half)⟩
    refine length_yearChars (?_ : 0 ≤ m.date.year) (?_ : m.date.year ≤ 9999)
    · have early : ¬ m.date.year < 1899 := fun less => first (.inl (.inl less))
      omega
    · have late : ¬ 9999 < m.date.year := fun more => inside (.inl (.inl more))
      omega
  · have same : m = limitMoment := by
      rw [reached.2 half, ofSerialMilliseconds?_limit] at h
      exact (Option.some.inj h).symm
    subst same
    exact ⟨⟨_, most, counted⟩, first, limit, iff_of_false (by decide) half,
      iff_of_false (by decide) half, iff_of_true rfl half⟩

end Calendar

namespace Cell

theorem value_number_timestamp_iff {n : Binary64} {m : Moment} :
    (number n).value .timestamp = .ok (.timestamp m) ↔ Moment.ofSerial? n = some m := by
  simp only [value, timestampValue]
  cases Moment.ofSerial? n <;> simp

/-- The finite positive numbers below the limit are spreadsheet dates, no product on the way being
too large, and a greater one is never an earlier moment.  Those within half a millisecond of the
limit are the first moment of the year 10000, all others are in the years of four digits. -/
theorem number_value_timestamp_ordered (n : Binary64) :
    ((∃ m, (number n).value .timestamp = .ok (.timestamp m)) ↔
      ∃ v, n.exactValue? = some v ∧ 0 < v ∧ v < serialLimit) ∧
    ∀ v m, n.exactValue? = some v → (number n).value .timestamp = .ok (.timestamp m) →
      IsSpreadsheetDate v m ∧
        ∀ n' v' m', n'.exactValue? = some v' →
          (number n').value .timestamp = .ok (.timestamp m') → v ≤ v' → ¬ m'.Before m := by
  simp only [value_number_timestamp_iff]
  refine ⟨⟨?_, ?_⟩, ?_⟩
  · rintro ⟨m, h⟩
    obtain ⟨units, fits, rfl⟩ := Moment.exists_units_of_ofSerial h
    obtain ⟨positive, below, -⟩ := Moment.ofSerial?_finite.1 h
    exact ⟨_, rfl, div_pos_iff_units.2 positive, div_lt_limit_iff.2 below⟩
  · rintro ⟨v, exact, positive, below⟩
    obtain ⟨units, fits, rfl⟩ := exists_units_of_pos exact positive
    obtain rfl : (units : ℚ) / unitsPerOne = v := Option.some.inj exact
    have below := div_lt_limit_iff.1 below
    obtain ⟨m, counted⟩ := exists_moment (serialMilliseconds_le_limit below.le)
    exact ⟨m, Moment.ofSerial?_finite.2 ⟨div_pos_iff_units.1 positive, below, counted⟩⟩
  · intro v m exact h
    obtain ⟨units, fits, rfl⟩ := Moment.exists_units_of_ofSerial h
    obtain ⟨-, below, counted⟩ := Moment.ofSerial?_finite.1 h
    obtain rfl : (units : ℚ) / unitsPerOne = v := Option.some.inj exact
    refine ⟨isSpreadsheetDate_of_units fits below.le counted, ?_⟩
    intro n' v' m' exact' h' order
    obtain ⟨units', fits', rfl⟩ := Moment.exists_units_of_ofSerial h'
    obtain ⟨-, -, counted'⟩ := Moment.ofSerial?_finite.1 h'
    obtain rfl : (units' : ℚ) / unitsPerOne = v' := Option.some.inj exact'
    exact Moment.not_before_of_le counted counted'
      (serialMilliseconds_le (div_le_div_iff_units.1 order))

def springMoment : Moment := ⟨⟨2024, 3, 15, by decide⟩, ⟨10, 30, 0, 0, by decide⟩⟩

def springSerial : Binary64 := serialOfSteps (725863 * 2 ^ 27) (by decide)

def almostLimit : Binary64 := serialOfSteps (serialLimit * 2 ^ 31 - 1) (by decide)

theorem exactValue?_springSerial : springSerial.exactValue? = some (725863 / 16) := by
  rw [springSerial, exactValue?_serialOfSteps]
  norm_num

theorem exactValue?_almostLimit :
    almostLimit.exactValue? = some ((serialLimit : ℚ) - 1 / 2147483648) := by
  rw [almostLimit, exactValue?_serialOfSteps]
  norm_num [serialLimit]

theorem ofSerial?_springSerial : Moment.ofSerial? springSerial = some springMoment :=
  (Moment.ofSerial?_serialOfSteps (by decide) (by decide)).2 ⟨by decide, by decide, by decide⟩

theorem ofSerial?_almostLimit : Moment.ofSerial? almostLimit = some limitMoment :=
  (Moment.ofSerial?_serialOfSteps (by decide) (by decide)).2 ⟨by decide, by decide, by decide⟩

/-- A morning in spring is a spreadsheet date, in the years of four digits and not later than the
last serial. -/
theorem number_value_timestamp_ordered_spring :
    (number springSerial).value .timestamp = .ok (.timestamp springMoment) ∧
      IsSpreadsheetDate (725863 / 16) springMoment ∧ LeavesHalf (725863 / 16) ∧
        ¬ limitMoment.Before springMoment := by
  have morning : (number springSerial).value .timestamp = .ok (.timestamp springMoment) :=
    value_number_timestamp_iff.2 ofSerial?_springSerial
  have last : (number almostLimit).value .timestamp = .ok (.timestamp limitMoment) :=
    value_number_timestamp_iff.2 ofSerial?_almostLimit
  obtain ⟨date, ordered⟩ := (number_value_timestamp_ordered springSerial).2 _ _
    exactValue?_springSerial morning
  refine ⟨morning, date, ?_, ordered almostLimit _ _ exactValue?_almostLimit last ?_⟩
  · norm_num [LeavesHalf, serialLimit, millisecondsPerDay]
  · norm_num [serialLimit]

/-- The last serial before the limit is within half a millisecond of it: it is a moment of the year
10000, and its literal has no year of four digits. -/
theorem number_value_timestamp_past_limit :
    almostLimit.exactValue? = some ((serialLimit : ℚ) - 1 / 2147483648) ∧
      (number almostLimit).value .timestamp = .ok (.timestamp limitMoment) ∧
        lastMoment.Before limitMoment ∧ limitMoment.text = "+10000-01-01 00:00:00" :=
  ⟨exactValue?_almostLimit, value_number_timestamp_iff.2 ofSerial?_almostLimit, by decide,
    by decide⟩

end Cell

end TableLoad
