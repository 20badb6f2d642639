import Mathlib.Tactic.Linarith
import TableLoad.Calendar.Serial
import TableLoad.Proofs.Calendar.DayNumbers
import TableLoad.Proofs.Number.Decimals

/-! # Serials

From a serial to its moment.  The product of the serial with the milliseconds of a day is rounded
twice, to a number and to an integer, and both roundings keep the order.  The limit is looked at
before, so the serials within half a millisecond of it still reach it.
-/
namespace TableLoad.Calendar
open Number

/-! ### Milliseconds -/

def serialMilliseconds (units : Nat) : Nat :=
  roundDiv .up (nearestWhole (units * millisecondsPerDay)) unitsPerOne

theorem serialMilliseconds_le {units units' : Nat} (h : units ≤ units') :
    serialMilliseconds units ≤ serialMilliseconds units' :=
  roundDiv_up_le unitsPerOne_pos (nearestWhole_le_nearestWhole (Nat.mul_le_mul_right _ h))

/-- Whole days are not rounded. -/
theorem serialMilliseconds_days {days : Nat} (h : days * millisecondsPerDay < 2 ^ 53) :
    serialMilliseconds (days * unitsPerOne) = days * millisecondsPerDay := by
  rw [serialMilliseconds, Nat.mul_right_comm, nearestWhole_mul_unitsPerOne, nearestWhole_of_lt h,
    roundDiv_of_dvd .up _ unitsPerOne_pos]

theorem serialMilliseconds_le_limit {units : Nat} (h : units ≤ serialLimit * unitsPerOne) :
    serialMilliseconds units ≤ serialLimit * millisecondsPerDay :=
  (serialMilliseconds_le h).trans_eq (serialMilliseconds_days (by decide))

theorem serialMilliseconds?_eq {units : Nat} (h : units ≤ serialLimit * unitsPerOne) :
    serialMilliseconds? units = some (serialMilliseconds units) := by
  have rounded := roundedUnits_unitsPerOne (units * millisecondsPerDay)
  have small : serialLimit * millisecondsPerDay < 2 ^ 53 := by decide
  have finite : roundedUnits (units * millisecondsPerDay) unitsPerOne < overflowUnits := by
    obtain ⟨top, room, limit⟩ : ∃ top, 53 ≤ top ∧ overflowUnits = 2 ^ top * unitsPerOne :=
      ⟨1024, by decide, overflowUnits_eq⟩
    calc roundedUnits (units * millisecondsPerDay) unitsPerOne =
          nearestWhole (units * millisecondsPerDay) := rounded
      _ ≤ nearestWhole (serialLimit * unitsPerOne * millisecondsPerDay) :=
        nearestWhole_le_nearestWhole (Nat.mul_le_mul_right _ h)
      _ = serialLimit * millisecondsPerDay * unitsPerOne := by
        rw [Nat.mul_right_comm, nearestWhole_mul_unitsPerOne, nearestWhole_of_lt small]
      _ < 2 ^ top * unitsPerOne :=
        Nat.mul_lt_mul_of_pos_right
          (small.trans_le (Nat.pow_le_pow_right Nat.two_pos room)) unitsPerOne_pos
      _ = overflowUnits := limit.symm
  rw [serialMilliseconds?, Binary64.ofRatio_of_finite false finite, nearestUp?,
    serialMilliseconds, ← rounded]

/-- The distance of the serials from 2²¹ on. -/
def serialStep : Nat := unitsPerOne / 2 ^ 31

theorem exists_serialStep_eq :
    ∃ shift, 53 + shift ≤ 2098 ∧ serialStep = 2 ^ shift ∧ unitsPerOne = 2 ^ 31 * serialStep := by
  obtain ⟨shift, few, many, one⟩ : ∃ shift, 31 ≤ shift ∧ shift ≤ 2045 ∧ unitsPerOne = 2 ^ shift :=
    ⟨1074, by decide, by decide, rfl⟩
  have step : serialStep = 2 ^ (shift - 31) := by
    rw [serialStep, one, Nat.pow_div few (by decide)]
  refine ⟨shift - 31, by omega, step, ?_⟩
  rw [step, ← Nat.pow_add, Nat.add_sub_cancel' few, one]

theorem unitsPerOne_eq_serialStep : unitsPerOne = 2 ^ 31 * serialStep := by
  obtain ⟨-, -, -, one⟩ := exists_serialStep_eq
  exact one

theorem serialStep_pos : 0 < serialStep := by
  obtain ⟨shift, -, step, -⟩ := exists_serialStep_eq
  exact step ▸ Nat.two_pow_pos shift

theorem serialStep_dvd {units : Nat} (fits : Representable units)
    (large : 2 ^ 21 * unitsPerOne ≤ units) : serialStep ∣ units := by
  obtain ⟨shift, -, step, one⟩ := exists_serialStep_eq
  rw [one, step, ← Nat.pow_add, ← Nat.pow_add] at large
  have log : 21 + (31 + shift) ≤ units.log2 :=
    (Nat.le_log2 (Nat.ne_of_gt (Nat.lt_of_lt_of_le (Nat.two_pow_pos _) large))).2 large
  rw [step]
  exact (Nat.pow_dvd_pow 2 (by omega)).trans (spacing_dvd fits)

/-- The milliseconds of a serial in steps, when the product has to be rounded. -/
theorem serialMilliseconds_steps {count : Nat} (long : 52 ≤ (count * millisecondsPerDay).log2) :
    serialMilliseconds (count * serialStep) =
      roundDiv .up (nearestWhole (count * millisecondsPerDay)) (2 ^ 31) := by
  obtain ⟨shift, -, step, one⟩ := exists_serialStep_eq
  rw [serialMilliseconds, one, Nat.mul_right_comm, step, nearestWhole_mul_two_pow long,
    roundDiv_mul_right _ _ _ (Nat.two_pow_pos shift)]

/-- Both roundings together are off by little more than half a millisecond. -/
theorem serialMilliseconds_near {units : Nat} (h : units ≤ serialLimit * unitsPerOne) :
    32 * (units * millisecondsPerDay) ≤ 32 * (serialMilliseconds units * unitsPerOne) +
        17 * unitsPerOne ∧
      32 * (serialMilliseconds units * unitsPerOne) ≤ 32 * (units * millisecondsPerDay) +
        17 * unitsPerOne := by
  have one := unitsPerOne_pos
  have product := nearestWhole_bounds (units * millisecondsPerDay)
  have integer := roundDiv_up_bounds (nearestWhole (units * millisecondsPerDay)) one
  have fine : 16 * spacing (units * millisecondsPerDay) ≤ unitsPerOne := by
    have size : units * millisecondsPerDay ≤ 2 ^ 48 * unitsPerOne := by
      have most := Nat.mul_le_mul_right millisecondsPerDay h
      have room : serialLimit * millisecondsPerDay ≤ 2 ^ 48 := by decide
      have := Nat.mul_le_mul_right unitsPerOne room
      rw [Nat.mul_right_comm] at most
      exact most.trans this
    rcases spacing_cases (units * millisecondsPerDay) with single | part
    · have steps := unitsPerOne_eq_serialStep
      have step := serialStep_pos
      omega
    · omega
  rw [← serialMilliseconds] at integer
  omega

theorem serialMilliseconds_thirteen_before :
    serialMilliseconds ((serialLimit * 2 ^ 31 - 13) * serialStep) =
      serialLimit * millisecondsPerDay - 1 := by
  rw [serialMilliseconds_steps (by decide)]
  decide

theorem serialMilliseconds_twelve_before :
    serialMilliseconds ((serialLimit * 2 ^ 31 - 12) * serialStep) =
      serialLimit * millisecondsPerDay := by
  rw [serialMilliseconds_steps (by decide)]
  decide

/-- Twelve steps before the limit there is half a millisecond left at most, and thirteen before
it there is more. -/
theorem near_limit_iff {step : Nat} (pos : 0 < step) (count : Nat) :
    2 * ((serialLimit * (2 ^ 31 * step) - count * step) * millisecondsPerDay) ≤ 2 ^ 31 * step ↔
      serialLimit * 2 ^ 31 ≤ count + 12 := by
  have scaled : 2 * ((serialLimit * (2 ^ 31 * step) - count * step) * millisecondsPerDay) =
      2 * ((serialLimit * 2 ^ 31 - count) * millisecondsPerDay) * step := by
    rw [← Nat.mul_assoc serialLimit, ← Nat.sub_mul, Nat.mul_right_comm, ← Nat.mul_assoc]
  rw [scaled, Nat.mul_le_mul_right_iff pos]
  unfold serialLimit millisecondsPerDay
  omega

/-- The serials that reach the limit are those within half a millisecond of it. -/
theorem serialMilliseconds_eq_limit_iff {units : Nat} (fits : Representable units)
    (below : units ≤ serialLimit * unitsPerOne) :
    serialMilliseconds units = serialLimit * millisecondsPerDay ↔
      2 * ((serialLimit * unitsPerOne - units) * millisecondsPerDay) ≤ unitsPerOne := by
  have most := serialMilliseconds_le_limit below
  rcases Nat.lt_or_ge units (2 ^ 21 * unitsPerOne) with small | large
  · -- these are days before the limit
    have pos := unitsPerOne_pos
    have value := serialMilliseconds_le small.le
    rw [serialMilliseconds_days (by decide)] at value
    generalize serialMilliseconds units = milliseconds at *
    generalize unitsPerOne = one at *
    unfold serialLimit millisecondsPerDay at *
    omega
  · obtain ⟨count, parts⟩ := serialStep_dvd fits large
    rw [Nat.mul_comm] at parts
    rw [parts] at most
    rw [parts, unitsPerOne_eq_serialStep, near_limit_iff serialStep_pos]
    constructor
    · intro reached
      by_contra far
      have early : count ≤ serialLimit * 2 ^ 31 - 13 := by omega
      have before := serialMilliseconds_le (Nat.mul_le_mul_right serialStep early)
      rw [reached, serialMilliseconds_thirteen_before] at before
      exact absurd before (by decide)
    · intro near
      have late := Nat.sub_le_of_le_add near
      have after := serialMilliseconds_le (Nat.mul_le_mul_right serialStep late)
      rw [serialMilliseconds_twelve_before] at after
      exact Nat.le_antisymm most after

/-! ### Moments -/

def Time.ofMilliseconds? (rest : Nat) : Option Time :=
  Time.ofFields? (rest / 3600000) (rest / 60000 % 60) (rest / 1000 % 60) (rest % 1000 * 10 ^ 6)

theorem Time.ofMilliseconds?_eq_some_iff {rest : Nat} {t : Time} :
    Time.ofMilliseconds? rest = some t ↔ t.hour = rest / 3600000 ∧ t.minute = rest / 60000 % 60 ∧
      t.second = rest / 1000 % 60 ∧ t.nanosecond = rest % 1000 * 10 ^ 6 := by
  rw [Time.ofMilliseconds?, Time.ofFields?]
  constructor
  · intro h
    split at h
    · cases h
      exact ⟨rfl, rfl, rfl, rfl⟩
    · cases h
  · rintro ⟨hour, minute, second, nanosecond⟩
    rw [← hour, ← minute, ← second, ← nanosecond]
    exact dif_pos t.isTime

theorem Time.exists_of_milliseconds {rest : Nat} (h : rest < millisecondsPerDay) :
    ∃ t, Time.ofMilliseconds? rest = some t := by
  refine ⟨_, dif_pos ?_⟩
  unfold IsTime
  unfold millisecondsPerDay at h
  omega

theorem Moment.ofSerialMilliseconds?_eq_some_iff {milliseconds : Nat} {m : Moment} :
    Moment.ofSerialMilliseconds? milliseconds = some m ↔
      Date.ofDayNumber? (serialEpoch + milliseconds / millisecondsPerDay) = some m.date ∧
        Time.ofMilliseconds? (milliseconds % millisecondsPerDay) = some m.time := by
  rw [Moment.ofSerialMilliseconds?, Time.ofMilliseconds?]
  generalize Time.ofFields? _ _ _ _ = time?
  generalize Date.ofDayNumber? _ = date?
  obtain ⟨date, time⟩ := m
  cases date? <;> cases time? <;> simp

theorem exists_moment {milliseconds : Nat}
    (h : milliseconds ≤ serialLimit * millisecondsPerDay) :
    ∃ m, Moment.ofSerialMilliseconds? milliseconds = some m := by
  have days : milliseconds / millisecondsPerDay ≤ serialLimit :=
    Nat.div_le_of_le_mul (Nat.mul_comm .. ▸ h)
  obtain ⟨d, date⟩ := exists_date (n := serialEpoch + milliseconds / millisecondsPerDay) (by
    unfold serialEpoch
    unfold serialLimit at days
    omega)
  obtain ⟨t, time⟩ := Time.exists_of_milliseconds (Nat.mod_lt milliseconds (by decide))
  exact ⟨⟨d, t⟩, Moment.ofSerialMilliseconds?_eq_some_iff.2 ⟨date, time⟩⟩

theorem Moment.before_of_lt {a b : Nat} {m m' : Moment}
    (h : Moment.ofSerialMilliseconds? a = some m) (h' : Moment.ofSerialMilliseconds? b = some m')
    (less : a < b) : m.Before m' := by
  obtain ⟨date, time⟩ := Moment.ofSerialMilliseconds?_eq_some_iff.1 h
  obtain ⟨date', time'⟩ := Moment.ofSerialMilliseconds?_eq_some_iff.1 h'
  rcases (Nat.div_le_div_right less.le : a / millisecondsPerDay ≤ b / millisecondsPerDay).lt_or_eq
    with days | same
  · exact .inl (Date.before_of_lt date date' (by omega))
  · rw [same, date'] at date
    refine .inr ⟨(Option.some.inj date).symm, ?_⟩
    obtain ⟨hour, minute, second, nanosecond⟩ := Time.ofMilliseconds?_eq_some_iff.1 time
    obtain ⟨hour', minute', second', nanosecond'⟩ := Time.ofMilliseconds?_eq_some_iff.1 time'
    rw [Time.Before, hour, minute, second, nanosecond, hour', minute', second', nanosecond']
    unfold millisecondsPerDay at *
    omega

theorem Moment.not_before_of_le {a b : Nat} {m m' : Moment}
    (h : Moment.ofSerialMilliseconds? a = some m) (h' : Moment.ofSerialMilliseconds? b = some m')
    (order : a ≤ b) : ¬ m'.Before m := by
  intro back
  rcases order.lt_or_eq with less | rfl
  · exact (before_of_lt h h' less).asymm back
  · obtain rfl : m = m' := Option.some.inj (h.symm.trans h')
    exact back.asymm back

def firstMoment : Moment := ⟨⟨1899, 12, 30, by decide⟩, ⟨0, 0, 0, 0, by decide⟩⟩

def lastMoment : Moment := ⟨⟨9999, 12, 31, by decide⟩, ⟨23, 59, 59, 999000000, by decide⟩⟩

def limitMoment : Moment := ⟨⟨10000, 1, 1, by decide⟩, ⟨0, 0, 0, 0, by decide⟩⟩

theorem ofSerialMilliseconds?_zero : Moment.ofSerialMilliseconds? 0 = some firstMoment := by
  decide

theorem ofSerialMilliseconds?_last :
    Moment.ofSerialMilliseconds? (serialLimit * millisecondsPerDay - 1) = some lastMoment := by
  decide

theorem ofSerialMilliseconds?_limit :
    Moment.ofSerialMilliseconds? (serialLimit * millisecondsPerDay) = some limitMoment := by
  decide

theorem Moment.ofSerial?_finite {units : Nat} {fits : Representable units} {m : Moment} :
    Moment.ofSerial? (.finite false units fits) = some m ↔
      0 < units ∧ units < serialLimit * unitsPerOne ∧
        Moment.ofSerialMilliseconds? (serialMilliseconds units) = some m := by
  have range : (0 < units && units < serialLimit * unitsPerOne) = true ↔
      0 < units ∧ units < serialLimit * unitsPerOne := by
    rw [Bool.and_eq_true, decide_eq_true_iff, decide_eq_true_iff]
  rw [Moment.ofSerial?]
  constructor
  · intro h
    split at h
    · rename_i inside
      obtain ⟨positive, below⟩ := range.1 inside
      rw [serialMilliseconds?_eq below.le, Option.bind_some] at h
      exact ⟨positive, below, h⟩
    · cases h
  · rintro ⟨positive, below, h⟩
    rw [if_pos (range.2 ⟨positive, below⟩), serialMilliseconds?_eq below.le, Option.bind_some]
    exact h

theorem Moment.exists_units_of_ofSerial {n : Binary64} {m : Moment}
    (h : Moment.ofSerial? n = some m) : ∃ units fits, n = .finite false units fits := by
  cases n with
  | nan => cases h
  | infinity negative => cases h
  | finite negative units fits =>
    cases negative with
    | true => cases h
    | false => exact ⟨units, fits, rfl⟩

/-! ### Serials as numbers -/

section Exact
variable {units : Nat}

theorem exists_units_of_pos {n : Binary64} {v : ℚ} (exact : n.exactValue? = some v)
    (positive : 0 < v) : ∃ units fits, n = .finite false units fits := by
  cases n with
  | nan => cases exact
  | infinity negative => cases exact
  | finite negative units fits =>
    cases negative with
    | true =>
      obtain rfl : -((units : ℚ) / unitsPerOne) = v := Option.some.inj exact
      have size : (0 : ℚ) ≤ units / unitsPerOne := by positivity
      linarith
    | false => exact ⟨units, fits, rfl⟩

theorem div_pos_iff_units : 0 < (units : ℚ) / unitsPerOne ↔ 0 < units := by
  have one : (0 : ℚ) < unitsPerOne := by exact_mod_cast unitsPerOne_pos
  rw [div_pos_iff_of_pos_right one]
  exact Nat.cast_pos

theorem div_lt_limit_iff :
    (units : ℚ) / unitsPerOne < serialLimit ↔ units < serialLimit * unitsPerOne := by
  have one : (0 : ℚ) < unitsPerOne := by exact_mod_cast unitsPerOne_pos
  rw [div_lt_iff₀ one]
  exact_mod_cast Iff.rfl

theorem div_le_div_iff_units {units' : Nat} :
    (units : ℚ) / unitsPerOne ≤ (units' : ℚ) / unitsPerOne ↔ units ≤ units' := by
  have one : (0 : ℚ) < unitsPerOne := by exact_mod_cast unitsPerOne_pos
  rw [div_le_div_iff_of_pos_right one]
  exact Nat.cast_le

theorem serialMilliseconds_abs_le (h : units ≤ serialLimit * unitsPerOne) :
    |(units : ℚ) / unitsPerOne * millisecondsPerDay - serialMilliseconds units| ≤ 17 / 32 := by
  have one : (0 : ℚ) < unitsPerOne := by exact_mod_cast unitsPerOne_pos
  obtain ⟨low, high⟩ := serialMilliseconds_near h
  have same : (units : ℚ) / unitsPerOne * millisecondsPerDay - serialMilliseconds units =
      ((units * millisecondsPerDay : Nat) - (serialMilliseconds units * unitsPerOne : Nat) : ℚ) /
        unitsPerOne := by
    rw [Nat.cast_mul, Nat.cast_mul, sub_div, mul_div_cancel_right₀ _ one.ne', mul_div_right_comm]
  rw [← Nat.cast_le (α := ℚ)] at low high
  rw [same, abs_le, le_div_iff₀ one, div_le_iff₀ one]
  push_cast at low high ⊢
  constructor <;> linarith

/-- More than half a millisecond is left from the serial to the limit. -/
def LeavesHalf (v : ℚ) : Prop := 1 / 2 < (serialLimit - v) * millisecondsPerDay

theorem leavesHalf_iff (below : units ≤ serialLimit * unitsPerOne) :
    LeavesHalf ((units : ℚ) / unitsPerOne) ↔
      unitsPerOne < 2 * ((serialLimit * unitsPerOne - units) * millisecondsPerDay) := by
  have one : (0 : ℚ) < unitsPerOne := by exact_mod_cast unitsPerOne_pos
  have left : ((serialLimit : ℚ) - units / unitsPerOne) * millisecondsPerDay =
      ((serialLimit * unitsPerOne - units : Nat) * millisecondsPerDay : ℚ) / unitsPerOne := by
    rw [Nat.cast_sub below, Nat.cast_mul, mul_div_right_comm, sub_div,
      mul_div_cancel_right₀ _ one.ne']
  rw [LeavesHalf, left, lt_div_iff₀ one, ← Nat.cast_lt (α := ℚ)]
  push_cast
  constructor <;> intro h <;> linarith

end Exact

section Steps
variable {count : Nat}

theorem representable_steps (h : count < 2 ^ 53) : Representable (count * serialStep) := by
  obtain ⟨shift, room, step, -⟩ := exists_serialStep_eq
  rw [step]
  exact representable_mul_two_pow h room

def serialOfSteps (count : Nat) (h : count < 2 ^ 53) : Binary64 :=
  .finite false (count * serialStep) (representable_steps h)

theorem exactValue?_serialOfSteps (h : count < 2 ^ 53) :
    (serialOfSteps count h).exactValue? = some ((count : ℚ) / 2147483648) := by
  have value : (serialOfSteps count h).exactValue? =
      some (((count * serialStep : Nat) : ℚ) / unitsPerOne) := rfl
  have step : (serialStep : ℚ) ≠ 0 := by exact_mod_cast serialStep_pos.ne'
  rw [value, unitsPerOne_eq_serialStep, Nat.cast_mul, Nat.cast_mul, mul_div_mul_right _ _ step]
  norm_num

theorem Moment.ofSerial?_serialOfSteps (h : count < 2 ^ 53)
    (long : 52 ≤ (count * millisecondsPerDay).log2) {m : Moment} :
    Moment.ofSerial? (serialOfSteps count h) = some m ↔ 0 < count ∧ count < serialLimit * 2 ^ 31 ∧
      Moment.ofSerialMilliseconds?
        (roundDiv .up (nearestWhole (count * millisecondsPerDay)) (2 ^ 31)) = some m := by
  rw [serialOfSteps, Moment.ofSerial?_finite, serialMilliseconds_steps long,
    unitsPerOne_eq_serialStep, ← Nat.mul_assoc, Nat.mul_lt_mul_right serialStep_pos,
    Nat.mul_pos_iff_of_pos_right serialStep_pos]

end Steps

end TableLoad.Calendar
