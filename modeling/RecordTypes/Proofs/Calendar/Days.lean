import RecordTypes.Calendar.Date
import Mathlib.Algebra.Order.SuccPred
import Mathlib.Data.Int.ConditionallyCompleteOrder
import Mathlib.Data.Int.SuccPred
import Mathlib.Data.Prod.Lex
import Mathlib.Order.Monotone.Basic

/-!
# The days of the calendar

Dates come in the order of their years, then months, then days, and `Date.next` is the day after a
date.  The day number follows both: it grows by one from a day to the next (`dayNumber_next`) and is
strictly increasing (`strictMono_dayNumber`), so that there is no date between a day and the next
(`covBy_next`).  All of this rests on two facts about the counts of days: the months of a year
follow each other without a gap (`daysBeforeMonth_succ`), and so do the years
(`daysBeforeYear_succ`), at the turn to year 1 as at any other.
-/

namespace RecordTypes

variable {year : Int} {month month' : Nat}

/-! ### Months and years -/

theorem one_le_daysInMonth (year : Int) (month : Nat) : 1 ≤ daysInMonth year month := by
  fun_cases daysInMonth year month <;> decide

/-- A month begins where the one before it ends. -/
theorem daysBeforeMonth_succ (h : 1 ≤ month) :
    daysBeforeMonth year (month + 1) = daysBeforeMonth year month + daysInMonth year month := by
  obtain ⟨m, rfl⟩ := Nat.exists_eq_add_of_le' h
  rw [daysBeforeMonth, daysBeforeMonth, Nat.add_sub_cancel, Nat.add_sub_cancel, List.range_succ,
    List.foldl_append]
  rfl

theorem monotone_daysBeforeMonth (year : Int) : Monotone (daysBeforeMonth year) := by
  apply monotone_nat_of_le_succ
  intro month
  cases month with
  | zero => exact le_rfl
  | succ m =>
    rw [daysBeforeMonth_succ (Nat.le_add_left 1 m)]
    exact Nat.le_add_right _ _

/-- What the months of a year add up to. -/
theorem daysBeforeMonth_thirteen (year : Int) :
    daysBeforeMonth year 13 = if isLeapYear year then 366 else 365 := by
  cases h : isLeapYear year <;> simp [daysBeforeMonth, daysInMonth, List.range_succ, h]

/-- A year begins where the one before it ends. -/
theorem daysBeforeYear_succ (year : Int) :
    daysBeforeYear (year + 1) = daysBeforeYear year + daysBeforeMonth year 13 := by
  rw [daysBeforeMonth_thirteen, isLeapYear, daysBeforeYear, daysBeforeYear]
  simp only [Bool.and_eq_true, Bool.or_eq_true, decide_eq_true_eq]
  split
  · omega
  · omega

theorem strictMono_daysBeforeYear : StrictMono daysBeforeYear := by
  apply strictMono_int_of_lt_succ
  intro year
  rw [daysBeforeYear_succ, daysBeforeMonth_thirteen]
  split <;> omega

namespace Date

variable {d e : Date}

/-! ### The order of dates -/

/-- Year, month and day, in the order in which they count. -/
def parts (d : Date) : ℤ ×ₗ ℕ ×ₗ ℕ := toLex (d.year, toLex (d.month, d.day))

theorem parts_injective : Function.Injective parts := by
  intro d e h
  cases d
  cases e
  simpa [parts] using h

/-- Dates in the order of the calendar. -/
instance : LinearOrder Date := LinearOrder.lift' parts parts_injective

theorem lt_iff : d < e ↔ d.year < e.year ∨
    d.year = e.year ∧ (d.month < e.month ∨ d.month = e.month ∧ d.day < e.day) := by
  show parts d < parts e ↔ _
  rw [parts, parts, Prod.Lex.toLex_lt_toLex, Prod.Lex.toLex_lt_toLex]

/-! ### The number of a day -/

/-- The days of its year before a date. -/
def daysBefore (d : Date) : Nat := daysBeforeMonth d.year d.month + (d.day - 1)

theorem dayNumber_eq (d : Date) : d.dayNumber = daysBeforeYear d.year + d.daysBefore := by
  rw [dayNumber, daysBefore, Nat.cast_add, add_assoc]

/-- A date is before the end of its month. -/
theorem daysBefore_lt_month (d : Date) : d.daysBefore < daysBeforeMonth d.year (d.month + 1) := by
  have hday := d.one_le_day
  have hle := d.day_le
  rw [daysBeforeMonth_succ d.one_le_month, daysBefore]
  omega

/-- A date is before the end of its year. -/
theorem daysBefore_lt_year (d : Date) : d.daysBefore < daysBeforeMonth d.year 13 := by
  have hmonths : d.month + 1 ≤ 13 := Nat.succ_le_succ d.month_le
  exact d.daysBefore_lt_month.trans_le (monotone_daysBeforeMonth d.year hmonths)

theorem daysBeforeYear_le_dayNumber (d : Date) : daysBeforeYear d.year ≤ d.dayNumber := by
  rw [dayNumber_eq]
  omega

theorem dayNumber_lt_daysBeforeYear (d : Date) : d.dayNumber < daysBeforeYear (d.year + 1) := by
  have hyear := d.daysBefore_lt_year
  rw [dayNumber_eq, daysBeforeYear_succ]
  omega

/-- Later dates have greater numbers. -/
theorem strictMono_dayNumber : StrictMono dayNumber := by
  -- What decides the order of two dates is the first part in which they differ, and the year or the
  -- month of the earlier one is over when that of the later one begins.
  intro d e hde
  rcases lt_iff.mp hde with hyear | ⟨hyear, hmonth | ⟨hmonth, hday⟩⟩
  · calc d.dayNumber < daysBeforeYear (d.year + 1) := d.dayNumber_lt_daysBeforeYear
      _ ≤ daysBeforeYear e.year := strictMono_daysBeforeYear.monotone hyear
      _ ≤ e.dayNumber := e.daysBeforeYear_le_dayNumber
  · have hmonths := monotone_daysBeforeMonth d.year (show d.month + 1 ≤ e.month from hmonth)
    have hlt := d.daysBefore_lt_month
    have hle : daysBeforeMonth d.year e.month ≤ e.daysBefore := by
      rw [hyear, daysBefore]
      exact Nat.le_add_right _ _
    rw [dayNumber_eq, dayNumber_eq, hyear]
    omega
  · have hone := d.one_le_day
    rw [dayNumber_eq, dayNumber_eq, daysBefore, daysBefore, hyear, hmonth]
    omega

/-! ### The next day -/

/-- The day after: in the same month, on the first of the next one, or on New Year's Day. -/
def next (d : Date) : Date :=
  if hday : d.day < daysInMonth d.year d.month then
    ⟨d.year, d.month, d.day + 1, d.one_le_month, d.month_le, Nat.le_add_left 1 d.day, hday⟩
  else if hmonth : d.month < 12 then
    ⟨d.year, d.month + 1, 1, Nat.le_add_left 1 d.month, hmonth, le_rfl, one_le_daysInMonth _ _⟩
  else ⟨d.year + 1, 1, 1, le_rfl, by decide, le_rfl, one_le_daysInMonth _ _⟩

theorem dayNumber_next (d : Date) : d.next.dayNumber = d.dayNumber + 1 := by
  have hone := d.one_le_day
  have hle := d.day_le
  have hsucc : daysBeforeMonth d.year (d.month + 1) =
      daysBeforeMonth d.year d.month + daysInMonth d.year d.month :=
    daysBeforeMonth_succ d.one_le_month
  rw [dayNumber_eq, dayNumber_eq, next]
  split
  · simp only [daysBefore]
    omega
  · next hday =>
    split
    · simp only [daysBefore]
      omega
    · next hmonth =>
      -- It is the last of December, where the year's days are used up.
      have hlast : d.month = 12 := Nat.le_antisymm d.month_le (Nat.le_of_not_lt hmonth)
      have hend : daysBeforeMonth d.year 13 =
          daysBeforeMonth d.year 12 + daysInMonth d.year 12 := daysBeforeMonth_succ (by decide)
      have hstart : daysBeforeMonth (d.year + 1) 1 = 0 := rfl
      rw [hlast] at hday hle
      simp only [daysBefore, daysBeforeYear_succ, hlast, hstart]
      omega

/-- There is no date between a day and the next. -/
theorem covBy_next (d : Date) : d ⋖ d.next := by
  have hnext := d.dayNumber_next
  refine ⟨strictMono_dayNumber.lt_iff_lt.mp (by omega), fun e hde hen => ?_⟩
  have hafter := strictMono_dayNumber hde
  have hbefore := strictMono_dayNumber hen
  omega

/-- Of the centuries only every fourth has a leap year. -/
example :
    next { year := 1900, month := 2, day := 28 } = { year := 1900, month := 3, day := 1 } ∧
    next { year := 2000, month := 2, day := 28 } = { year := 2000, month := 2, day := 29 } := by
  decide

/-- The first day of year 1, which has the number 0. -/
def first : Date where
  year := 1
  month := 1
  day := 1

/-- The first day of 1970. -/
def unixEpoch : Date where
  year := 1970
  month := 1
  day := 1

end Date

end RecordTypes
