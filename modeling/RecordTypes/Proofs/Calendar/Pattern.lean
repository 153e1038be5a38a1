import RecordTypes.Proofs.Calendar.Text
import Mathlib.Algebra.Group.Nat.Defs
import Mathlib.Data.String.Lemmas

/-!
# Patterns for dates

A pattern such as `M/d/yyyy h:mm:ss tt` tells how to write a moment.  Each row of one letter stands
for a part of it, with at least as many digits as there are letters; all other characters stand for
themselves.  The text of a moment is what `M/d/y h:mm:ss tt` asks for: no zeros are put before the
year.  So for the years from 0 to 999, and for these only, it is not what `M/d/yyyy h:mm:ss tt` asks
for (`text_follows_pattern`).
-/

namespace RecordTypes

/-! ### Padding -/

/-- A number with at least so many digits, with zeros in front if it has fewer.  A negative number
is written as it is. -/
def atLeast (digits : Nat) (n : Int) : String :=
  if n < 0 then toString n else (toString n).leftpad digits '0'

variable {k n : Nat}

theorem toString_natCast (n : Nat) : toString (n : Int) = toString n := rfl

theorem atLeast_natCast (digits n : Nat) : (atLeast digits n).toList =
    List.replicate (digits - (Nat.toDigits 10 n).length) '0' ++ Nat.toDigits 10 n := by
  have hnot : ¬ (n : Int) < 0 := by omega
  rw [atLeast, if_neg hnot, String.leftpad, String.toList_ofList, List.leftpad, toString_natCast,
    Nat.toString_eq_repr, Nat.toList_repr]

/-- A number is written as it is if it has the digits asked for. -/
theorem atLeast_eq_toString_iff_length : atLeast k n = toString n ↔
    k ≤ (Nat.toDigits 10 n).length := by
  rw [← String.toList_inj, atLeast_natCast, Nat.toString_eq_repr, Nat.toList_repr,
    List.append_left_eq_self, List.replicate_eq_nil_iff]
  omega

theorem atLeast_succ_eq_toString_iff (hk : 0 < k) :
    atLeast (k + 1) n = toString n ↔ 10 ^ k ≤ n := by
  have hlength : (Nat.toDigits 10 n).length ≤ k ↔ n < 10 ^ k :=
    Nat.length_toDigits_le_iff (by decide) hk
  rw [atLeast_eq_toString_iff_length]
  omega

theorem atLeast_of_neg {m : Int} (hm : m < 0) (digits : Nat) : atLeast digits m = toString m :=
  if_pos hm

theorem atLeast_one (m : Int) : atLeast 1 m = toString m := by
  cases m with
  | ofNat n => exact atLeast_eq_toString_iff_length.mpr Nat.length_toDigits_pos
  | negSucc n => exact atLeast_of_neg (Int.negSucc_lt_zero n) 1

/-- Only the numbers from 0 to 999 are filled up to four digits. -/
theorem atLeast_four_eq_toString_iff (m : Int) :
    atLeast 4 m = toString m ↔ ¬ (0 ≤ m ∧ m < 1000) := by
  cases m with
  | ofNat n =>
    have hiff : atLeast 4 n = toString n ↔ 10 ^ 3 ≤ n := atLeast_succ_eq_toString_iff (by decide)
    rw [Int.ofNat_eq_natCast]
    refine hiff.trans ?_
    omega
  | negSucc n =>
    exact iff_of_true (atLeast_of_neg (Int.negSucc_lt_zero n) 4) (by omega)

theorem atLeast_two (n : Nat) : atLeast 2 n = DateTime.twoDigits n := by
  unfold DateTime.twoDigits
  split_ifs with h
  · rw [← String.toList_inj, atLeast_natCast, Nat.toDigits_of_lt_base h, String.toList_append,
      Nat.toString_eq_repr, Nat.toList_repr, Nat.toDigits_of_lt_base h]
    rfl
  · exact (atLeast_succ_eq_toString_iff Nat.one_pos).mpr (by omega)

namespace DateTime

variable {t : DateTime}

/-! ### Patterns -/

/-- What a row of so many equal characters stands for: month, day, year, the hour on a clock from 1
to 12, minute, second (in a leap second the next one, which is 60 after second 59), the half of the
day, or the characters themselves. -/
def field (t : DateTime) (width : Nat) : Char → String
  | 'M' => atLeast width t.month
  | 'd' => atLeast width t.day
  | 'y' => atLeast width t.year
  | 'h' => atLeast width ((t.hour + 11) % 12 + 1 : Nat)
  | 'm' => atLeast width t.minute
  | 's' => atLeast width (if t.nanosecond < 1000000000 then t.second else t.second + 1 : Nat)
  | 't' => if t.hour < 12 then "AM" else "PM"
  | c => String.ofList (List.replicate width c)

/-- What a pattern asks for. -/
def inPattern (pattern : String) (t : DateTime) : String :=
  String.join ((pattern.toList.splitBy (· == ·)).map fun row => t.field row.length (row.headD ' '))

theorem hour12_eq (t : DateTime) : t.hour12 = (t.hour + 11) % 12 + 1 := by
  unfold hour12
  split_ifs <;> omega

theorem shownSecond_eq (t : DateTime) :
    t.shownSecond = if t.nanosecond < 1000000000 then t.second else t.second + 1 := by
  have hlt := t.nanosecond_lt
  unfold shownSecond
  split_ifs <;> omega

/-- The text with the year at least so many digits wide. -/
def textWithYear (digits : Nat) (t : DateTime) : String :=
  toString t.month ++ ("/" ++ (toString t.day ++ ("/" ++ (atLeast digits t.year ++ (" " ++
    (toString t.hour12 ++ (":" ++ (twoDigits t.minute ++ (":" ++
      (twoDigits t.shownSecond ++ (" " ++ t.half)))))))))))

theorem join_fields (digits : Nat) (t : DateTime) :
    String.join [t.field 1 'M', t.field 1 '/', t.field 1 'd', t.field 1 '/', t.field digits 'y',
      t.field 1 ' ', t.field 1 'h', t.field 1 ':', t.field 2 'm', t.field 1 ':', t.field 2 's',
      t.field 1 ' ', t.field 2 't'] = textWithYear digits t := by
  have hslash : t.field 1 '/' = "/" := rfl
  have hspace : t.field 1 ' ' = " " := rfl
  have hcolon : t.field 1 ':' = ":" := rfl
  -- The marks go first: a character that is none of the letters does not show as such to `field`.
  simp only [String.join_cons, String.join_nil, String.append_empty, hslash, hspace, hcolon]
  simp only [field, textWithYear, half, hour12_eq, shownSecond_eq, atLeast_one, atLeast_two,
    toString_natCast]

theorem inPattern_one_digit (t : DateTime) :
    t.inPattern "M/d/y h:mm:ss tt" = textWithYear 1 t := join_fields 1 t

theorem inPattern_four_digits (t : DateTime) :
    t.inPattern "M/d/yyyy h:mm:ss tt" = textWithYear 4 t := join_fields 4 t

theorem textWithYear_eq_text_iff {digits : Nat} :
    t.text = textWithYear digits t ↔ atLeast digits t.year = toString t.year := by
  rw [text_eq, textWithYear]
  simp only [String.append_right_inj, String.append_left_inj]
  exact eq_comm

/-- The text of a moment follows the pattern with a plain year.  It follows the one with a year of
four digits, too, unless the year is one of those from 0 to 999, which have fewer. -/
theorem text_follows_pattern (t : DateTime) :
    (Scalar.dateTime t).text = t.inPattern "M/d/y h:mm:ss tt" ∧
    ((Scalar.dateTime t).text = t.inPattern "M/d/yyyy h:mm:ss tt" ↔
      ¬ (0 ≤ t.year ∧ t.year < 1000)) := by
  show t.text = _ ∧ (t.text = _ ↔ _)
  rw [inPattern_one_digit, inPattern_four_digits, textWithYear_eq_text_iff,
    textWithYear_eq_text_iff]
  exact ⟨atLeast_one t.year, atLeast_four_eq_toString_iff t.year⟩

/-- The first moment of year 5 is written without the zeros that four digits ask for. -/
theorem text_without_zeros :
    let t : DateTime :=
      { year := 5
        month := 1
        day := 1
        hour := 0
        minute := 0
        second := 0
        nanosecond := 0 }
    (Scalar.dateTime t).text = "1/1/5 12:00:00 AM" ∧
      t.inPattern "M/d/yyyy h:mm:ss tt" = "1/1/0005 12:00:00 AM" ∧
      (Scalar.dateTime t).text ≠ t.inPattern "M/d/yyyy h:mm:ss tt" := by
  decide +kernel

end DateTime

end RecordTypes
