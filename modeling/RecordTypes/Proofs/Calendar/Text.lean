import RecordTypes.Scalar
import RecordTypes.Proofs.Text.Delimited
import Mathlib.Tactic.SplitIfs

/-!
# Texts of dates tell all but fractions of a second

The text of a moment is a row of numerals, each ended by a mark, and one of two words at its end
(`text_eq`).  The numerals of month, day and year have any number of digits, and that of the year
may have a dash before it; but no numeral holds a mark, so the parts are read back one by one.  The
hour is told by the 12-hour clock and the half of the day together (`hour_eq_of_hour12_eq`).
-/

namespace RecordTypes

open Text

namespace DateTime

variable {t u : DateTime}

/-! ### Two digits -/

theorem isNumeral_twoDigits (n : Nat) : IsNumeral (twoDigits n) := by
  unfold twoDigits
  split_ifs
  · intro c hc
    rw [String.toList_append, List.mem_append] at hc
    rcases hc with hzero | hc
    · obtain rfl : c = '0' := by simpa using hzero
      decide
    · exact isNumeral_toString n c hc
  · exact isNumeral_toString n

/-- A leading zero does not count. -/
theorem ofDigitChars_twoDigits (n : Nat) : Nat.ofDigitChars 10 (twoDigits n).toList 0 = n := by
  have hvalue : Nat.ofDigitChars 10 (toString n).toList 0 = n := by
    rw [Nat.toString_eq_repr, Nat.toList_repr, Nat.ofDigitChars_ten_toDigits]
  unfold twoDigits
  split_ifs
  · rw [String.toList_append]
    exact hvalue
  · exact hvalue

theorem delimited_twoDigits : Delimited twoDigits := by
  intro m n s t hs ht h
  obtain ⟨hmn, hst⟩ := (isNumeral_twoDigits m).append_inj (isNumeral_twoDigits n) hs ht h
  exact ⟨by rw [← ofDigitChars_twoDigits m, hmn, ofDigitChars_twoDigits], hst⟩

/-! ### The hour -/

/-- The half of the day. -/
def half (t : DateTime) : String := if t.hour < 12 then "AM" else "PM"

theorem half_eq_iff : t.half = u.half ↔ (t.hour < 12 ↔ u.hour < 12) := by
  unfold half
  split_ifs with ht hu hu <;> simp [ht, hu]

/-- The 12-hour clock and the half of the day tell the hour. -/
theorem hour_eq_of_hour12_eq (h : t.hour12 = u.hour12) (hhalf : t.half = u.half) :
    t.hour = u.hour := by
  have ht := t.hour_lt
  have hu := u.hour_lt
  have hbefore := half_eq_iff.mp hhalf
  unfold hour12 at h
  split_ifs at h <;> omega

/-! ### The text -/

/-- The parts and marks of a text, up to the half of the day. -/
theorem text_eq (t : DateTime) : t.text =
    toString t.month ++ ("/" ++ (toString t.day ++ ("/" ++ (toString t.year ++ (" " ++
      (toString t.hour12 ++ (":" ++ (twoDigits t.minute ++ (":" ++
        (twoDigits t.shownSecond ++ (" " ++ t.half))))))))))) := by
  simp only [text, half, String.append_assoc]
  split_ifs <;> rfl

/-- Two moments have one text exactly if they agree in their date, their hour, their minute and
their second as it is shown, which in a leap second is the one after it. -/
theorem text_eq_text_iff (t u : DateTime) :
    (Scalar.dateTime t).text = (Scalar.dateTime u).text ↔
      t.year = u.year ∧ t.month = u.month ∧ t.day = u.day ∧ t.hour = u.hour ∧
        t.minute = u.minute ∧ t.shownSecond = u.shownSecond := by
  show t.text = u.text ↔ _
  rw [text_eq, text_eq]
  constructor
  · -- Part by part, with the mark behind it, is taken off the front of both texts.
    intro h
    obtain ⟨hmonth, h⟩ := delimited_nat.mark_inj (by decide) (by decide) h
    obtain ⟨hday, h⟩ := delimited_nat.mark_inj (by decide) (by decide) h
    obtain ⟨hyear, h⟩ := delimited_int.mark_inj (by decide) (by decide) h
    obtain ⟨hhour, h⟩ := delimited_nat.mark_inj (by decide) (by decide) h
    obtain ⟨hminute, h⟩ := delimited_twoDigits.mark_inj (by decide) (by decide) h
    obtain ⟨hsecond, hhalf⟩ := delimited_twoDigits.mark_inj (by decide) (by decide) h
    exact ⟨hyear, hmonth, hday, hour_eq_of_hour12_eq hhour hhalf, hminute, hsecond⟩
  · rintro ⟨hyear, hmonth, hday, hhour, hminute, hsecond⟩
    rw [hour12, hour12, half, half, hyear, hmonth, hday, hhour, hminute, hsecond]

end DateTime

end RecordTypes
