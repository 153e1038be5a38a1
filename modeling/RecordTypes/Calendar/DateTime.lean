import RecordTypes.Calendar.Date

/-!
# Dates with a time of day

A time of day is counted in nanoseconds within its second.  Any second may go on past its end into a
leap second.  There the count has reached 1,000,000,000 and stays below 2,000,000,000, and the next
second is shown, which is second 60 at the end of a minute.

`DateTime.ticks` counts the units of 100 ns since the start of year 1; `DateTime.text` writes month,
day, year and the time on the 12-hour clock, and drops the fraction of the second.
-/

namespace RecordTypes

/-- A moment of a day, without a time zone. -/
structure DateTime extends Date where
  hour : Nat
  minute : Nat
  second : Nat
  nanosecond : Nat
  hour_lt : hour < 24 := by decide
  minute_lt : minute < 60 := by decide
  second_lt : second < 60 := by decide
  nanosecond_lt : nanosecond < 2000000000 := by decide
  deriving DecidableEq

namespace DateTime

/-- The moment with this date and these parts, if there is one. -/
def of? (date : Date) (hour minute second nanosecond : Nat) : Option DateTime :=
  if h : hour < 24 ∧ minute < 60 ∧ second < 60 ∧ nanosecond < 2000000000 then
    some ⟨date, hour, minute, second, nanosecond, h.1, h.2.1, h.2.2.1, h.2.2.2⟩
  else none

/-- The second as it is shown: one more in a leap second, which makes 60 of 59. -/
def shownSecond (t : DateTime) : Nat := t.second + t.nanosecond / 1000000000

/-- The second of the day, not counting a leap second. -/
def secondOfDay (t : DateTime) : Nat := (t.hour * 60 + t.minute) * 60 + t.second

/-- Units of 100 ns since the start of year 1. -/
def ticks (t : DateTime) : Int :=
  (t.dayNumber * 86400 + t.secondOfDay) * 10000000 + (t.nanosecond / 100 : Nat)

/-- The hour on the 12-hour clock: noon and midnight are 12. -/
def hour12 (t : DateTime) : Nat := if t.hour % 12 = 0 then 12 else t.hour % 12

/-- A number below 100 with two digits. -/
def twoDigits (n : Nat) : String := if n < 10 then "0" ++ toString n else toString n

/-- The text of a moment, such as `1/1/2014 12:00:00 AM`; the year is written as a plain number. -/
def text (t : DateTime) : String :=
  toString t.month ++ "/" ++ toString t.day ++ "/" ++ toString t.year ++ " " ++
    toString t.hour12 ++ ":" ++ twoDigits t.minute ++ ":" ++ twoDigits t.shownSecond ++
    (if t.hour < 12 then " AM" else " PM")

end DateTime

end RecordTypes
