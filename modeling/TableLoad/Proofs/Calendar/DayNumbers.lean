import Mathlib.Tactic.IntervalCases
import TableLoad.Calendar.Moment

/-! # Days by number

The calendar in the order of its days.  A day number is taken apart into a cycle of 400 years, a
year, a month and a day, years and months being counted from March; each number in the range of the
calendar is a day, and a greater number a later one.
-/
namespace TableLoad.Calendar

/-! ### The order of moments -/

def Date.Before (d d' : Date) : Prop :=
  d.year < d'.year ∨ d.year = d'.year ∧
    (d.month < d'.month ∨ d.month = d'.month ∧ d.day < d'.day)

instance (d d' : Date) : Decidable (d.Before d') := by
  unfold Date.Before; infer_instance

def Time.Before (t t' : Time) : Prop :=
  t.hour < t'.hour ∨ t.hour = t'.hour ∧
    (t.minute < t'.minute ∨ t.minute = t'.minute ∧
      (t.second < t'.second ∨ t.second = t'.second ∧ t.nanosecond < t'.nanosecond))

instance (t t' : Time) : Decidable (t.Before t') := by
  unfold Time.Before; infer_instance

def Moment.Before (m m' : Moment) : Prop :=
  m.date.Before m'.date ∨ m.date = m'.date ∧ m.time.Before m'.time

instance (m m' : Moment) : Decidable (m.Before m') := by
  unfold Moment.Before; infer_instance

theorem Date.Before.asymm {d d' : Date} (h : d.Before d') : ¬ d'.Before d := by
  unfold Date.Before at *
  omega

theorem Time.Before.asymm {t t' : Time} (h : t.Before t') : ¬ t'.Before t := by
  unfold Time.Before at *
  omega

theorem Moment.Before.asymm {m m' : Moment} (h : m.Before m') : ¬ m'.Before m := by
  rintro (back | ⟨same, back⟩)
  · rcases h with first | ⟨same, -⟩
    · exact first.asymm back
    · rw [same] at back
      exact back.asymm back
  · rcases h with first | ⟨-, first⟩
    · rw [same] at first
      exact first.asymm first
    · exact first.asymm back

/-! ### Years and months -/

/-- The days of a cycle before one of its years. -/
def daysBeforeYear (year : Nat) : Nat := 365 * year + year / 4 - year / 100 + year / 400

def daysBeforeMonth (month : Nat) : Nat := (153 * month + 2) / 5

/-- The days of a cycle before a day, without the leap days among them. -/
def commonDays (rest : Nat) : Nat := rest - rest / 1460 + rest / 36524 - rest / 146096

theorem daysBeforeYear_le {year year' : Nat} (h : year ≤ year') :
    daysBeforeYear year ≤ daysBeforeYear year' := by
  have century (n : Nat) : n / 100 = n / 4 / 25 := (Nat.div_div_eq_div_mul n 4 25).symm
  have fours : year / 4 ≤ year' / 4 := Nat.div_le_div_right h
  have cycles : year / 400 ≤ year' / 400 := Nat.div_le_div_right h
  rw [daysBeforeYear, daysBeforeYear, century, century]
  omega

theorem daysBeforeYear_succ_le (year : Nat) :
    daysBeforeYear (year + 1) ≤ daysBeforeYear year + 366 := by
  unfold daysBeforeYear
  omega

theorem daysBeforeMonth_le {month month' : Nat} (h : month ≤ month') :
    daysBeforeMonth month ≤ daysBeforeMonth month' :=
  Nat.div_le_div_right (by omega)

theorem commonDays_le {rest rest' : Nat} (h : rest ≤ rest') (cycle : rest' ≤ 146097) :
    commonDays rest ≤ commonDays rest' := by
  unfold commonDays
  omega

theorem commonDays_daysBeforeYear : ∀ year < 401, 365 * year ≤ commonDays (daysBeforeYear year) ∧
    (year ≠ 0 → commonDays (daysBeforeYear year - 1) < 365 * year) := by
  decide +kernel

theorem year_bounds {rest year : Nat} (h : rest < 146097) (hy : year = commonDays rest / 365) :
    year < 400 ∧ daysBeforeYear year ≤ rest ∧ rest < daysBeforeYear (year + 1) := by
  have last : commonDays rest ≤ commonDays 146096 := commonDays_le (by omega) (by omega)
  have cycle : commonDays 146096 = 145999 := rfl
  have full : year < 400 := by omega
  refine ⟨full, Nat.not_lt.1 fun less => ?_, Nat.not_le.1 fun more => ?_⟩
  · have filled : year ≠ 0 := by
      rintro rfl
      exact Nat.not_lt_zero _ less
    have before := (commonDays_daysBeforeYear year (by omega)).2 filled
    have inside : daysBeforeYear year ≤ daysBeforeYear 400 := daysBeforeYear_le (by omega)
    have whole : daysBeforeYear 400 = 146097 := rfl
    have := commonDays_le (show rest ≤ daysBeforeYear year - 1 by omega) (by omega)
    omega
  · have next := (commonDays_daysBeforeYear (year + 1) (by omega)).1
    have := commonDays_le more (by omega)
    omega

theorem month_bounds {days month : Nat} (h : days < 366) (hm : month = (5 * days + 2) / 153) :
    month < 12 ∧ daysBeforeMonth month ≤ days ∧ days < daysBeforeMonth (month + 1) := by
  unfold daysBeforeMonth
  omega

/-! ### The parts of a day number -/

/-- The day of the number stands in the month of the year of the cycle, behind `days` others. -/
structure StandsIn (n cycle year month days : Nat) : Prop where
  whole : n = 146097 * cycle + (daysBeforeYear year + (daysBeforeMonth month + days))
  year_lt : year < 400
  in_year : daysBeforeYear year + (daysBeforeMonth month + days) < daysBeforeYear (year + 1)
  month_lt : month < 12
  in_month : daysBeforeMonth month + days < daysBeforeMonth (month + 1)

theorem StandsIn.lt {n cycle year month days n' cycle' year' month' days' : Nat}
    (h : StandsIn n cycle year month days) (h' : StandsIn n' cycle' year' month' days')
    (less : n < n') : cycle < cycle' ∨ cycle = cycle' ∧ (year < year' ∨ year = year' ∧
      (month < month' ∨ month = month' ∧ days < days')) := by
  have inside {year : Nat} (h : year < 400) : daysBeforeYear (year + 1) ≤ 146097 :=
    daysBeforeYear_le h
  have size := inside h.year_lt
  have size' := inside h'.year_lt
  have whole := h.whole
  have whole' := h'.whole
  have inYear := h.in_year
  have inYear' := h'.in_year
  have inMonth := h.in_month
  have inMonth' := h'.in_month
  rcases Nat.lt_trichotomy cycle cycle' with first | rfl | later
  · exact .inl first
  · refine .inr ⟨rfl, ?_⟩
    rcases Nat.lt_trichotomy year year' with first | rfl | later
    · exact .inl first
    · refine .inr ⟨rfl, ?_⟩
      rcases Nat.lt_trichotomy month month' with first | rfl | later
      · exact .inl first
      · exact .inr ⟨rfl, by omega⟩
      · have := daysBeforeMonth_le (show month' + 1 ≤ month from later)
        omega
    · have := daysBeforeYear_le (show year' + 1 ≤ year from later)
      omega
  · omega

/-- The month of the calendar, by its place behind March. -/
def civilMonth (month : Nat) : Nat := if month < 10 then month + 3 else month - 9

def civilYear (cycle year month : Nat) : Nat :=
  year + 400 * cycle + if civilMonth month ≤ 2 then 1 else 0

theorem daysInMonth_civilMonth (y : Int) {month : Nat} (h : month < 11) :
    daysBeforeMonth month + daysInMonth y (civilMonth month) = daysBeforeMonth (month + 1) := by
  interval_cases month <;> rfl

/-- A year, counted from March, ends with a leap day if the next one of the calendar has one. -/
theorem isLeapYear_of_long (cycle : Nat) {year : Nat} (h : year < 400)
    (long : daysBeforeYear year + 365 < daysBeforeYear (year + 1)) :
    isLeapYear (civilYear cycle year 11) = true := by
  unfold daysBeforeYear at long
  have february : civilYear cycle year 11 = year + 400 * cycle + 1 := rfl
  simp only [isLeapYear, february, Bool.and_eq_true, Bool.or_eq_true, beq_iff_eq, bne_iff_ne]
  omega

theorem StandsIn.isDate {n cycle year month days : Nat} (h : StandsIn n cycle year month days)
    (small : cycle < 655) :
    IsDate (civilYear cycle year month) (civilMonth month) (days + 1) := by
  have yearLt := h.year_lt
  have monthLt := h.month_lt
  refine ⟨?_, ?_, by omega, ?_⟩
  · unfold civilYear
    split <;> omega
  · unfold civilMonth
    split <;> omega
  · have inYear := h.in_year
    have inMonth := h.in_month
    by_cases february : month = 11
    · subst february
      have start : daysBeforeMonth 11 = 337 := rfl
      have length : daysInMonth (civilYear cycle year 11) (civilMonth 11) =
          if isLeapYear (civilYear cycle year 11) then 29 else 28 := rfl
      have room := daysBeforeYear_succ_le year
      rw [length]
      split
      · omega
      · rename_i short
        have := mt (isLeapYear_of_long cycle yearLt) short
        omega
    · have := daysInMonth_civilMonth (civilYear cycle year month) (show month < 11 by omega)
      omega

/-- The parts of a day number are those that the calendar takes it apart into. -/
theorem exists_standsIn (n : Nat) : ∃ cycle year month days, StandsIn n cycle year month days ∧
    Date.ofDayNumber? n =
      Date.ofFields? (civilYear cycle year month) (civilMonth month) (days + 1) := by
  obtain ⟨yearLt, start, next⟩ := year_bounds (Nat.mod_lt n (by decide : 0 < 146097)) rfl
  have parts := Nat.div_add_mod n 146097
  have split : Date.ofDayNumber? n =
      let year := commonDays (n % 146097) / 365
      let days := n % 146097 - (365 * year + year / 4 - year / 100)
      let month := (5 * days + 2) / 153
      Date.ofFields? (civilYear (n / 146097) year month) (civilMonth month)
        (days - daysBeforeMonth month + 1) := rfl
  generalize commonDays (n % 146097) / 365 = year at *
  have leap : daysBeforeYear year = 365 * year + year / 4 - year / 100 := by
    rw [daysBeforeYear, Nat.div_eq_of_lt yearLt, Nat.add_zero]
  have room := daysBeforeYear_succ_le year
  simp only [← leap] at split
  obtain ⟨monthLt, first, last⟩ :=
    month_bounds (show n % 146097 - daysBeforeYear year < 366 by omega) rfl
  generalize (5 * (n % 146097 - daysBeforeYear year) + 2) / 153 = month at *
  exact ⟨n / 146097, year, month, n % 146097 - daysBeforeYear year - daysBeforeMonth month,
    ⟨by omega, yearLt, by omega, monthLt, by omega⟩, split⟩

/-! ### Days in order -/

theorem Date.ofFields?_eq_some_iff {year : Int} {month day : Nat} {d : Date} :
    Date.ofFields? year month day = some d ↔ d.year = year ∧ d.month = month ∧ d.day = day := by
  rw [Date.ofFields?]
  constructor
  · intro h
    split at h
    · cases h
      exact ⟨rfl, rfl, rfl⟩
    · cases h
  · rintro ⟨rfl, rfl, rfl⟩
    exact dif_pos d.isDate

theorem exists_date {n : Nat} (small : n < 655 * 146097) : ∃ d, Date.ofDayNumber? n = some d := by
  obtain ⟨cycle, year, month, days, here, split⟩ := exists_standsIn n
  have whole := here.whole
  exact ⟨_, split.trans (dif_pos (here.isDate (by omega)))⟩

theorem Date.before_of_lt {n n' : Nat} {d d' : Date} (h : Date.ofDayNumber? n = some d)
    (h' : Date.ofDayNumber? n' = some d') (less : n < n') : d.Before d' := by
  obtain ⟨cycle, year, month, days, here, split⟩ := exists_standsIn n
  obtain ⟨cycle', year', month', days', here', split'⟩ := exists_standsIn n'
  rw [split, Date.ofFields?_eq_some_iff] at h
  rw [split', Date.ofFields?_eq_some_iff] at h'
  obtain ⟨yearEq, monthEq, dayEq⟩ := h
  obtain ⟨yearEq', monthEq', dayEq'⟩ := h'
  have order := here.lt here' less
  have first := here.month_lt
  have second := here'.month_lt
  have yearLt := here.year_lt
  have yearLt' := here'.year_lt
  rw [Date.Before, yearEq, yearEq', monthEq, monthEq', dayEq, dayEq']
  unfold civilYear civilMonth
  clear here here' yearEq yearEq' monthEq monthEq' split split'
  split_ifs <;> omega

end TableLoad.Calendar
