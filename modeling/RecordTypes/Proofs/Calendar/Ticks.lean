import RecordTypes.Calendar.DateTime
import RecordTypes.Proofs.Calendar.Days

/-!
# Ticks count the time

Outside of leap seconds the ticks of a moment are the digits of a mixed-radix number: the day
number, hours, minutes, seconds and units of 100 ns.  So they grow by one day's worth from a date to
the next (`ticks_onDate`, `ticks_onDate_next`), they compare as the moments do, truncated to 100 ns
(`ticks_lt_iff`), and for the years from 1 to 9999 they fit into a word of 64 bits with room to
spare (`toInt_ticks`).  Counting from the start of 1970 and adding the ticks up to there gives the
same number (`ticks_eq_secondsSince`).
-/

namespace RecordTypes

namespace DateTime

variable {t u : DateTime}

/-- The start of a day. -/
def midnight (d : Date) : DateTime where
  toDate := d
  hour := 0
  minute := 0
  second := 0
  nanosecond := 0

/-- The same time of another day. -/
def onDate (t : DateTime) (d : Date) : DateTime := { t with toDate := d }

/-- A moment within an ordinary second. -/
def IsOrdinary (t : DateTime) : Prop := t.nanosecond < 1000000000

instance : DecidablePred IsOrdinary := fun t =>
  inferInstanceAs (Decidable (t.nanosecond < 1000000000))

/-- A moment truncated to 100 ns: its date, hour, minute, second and units of 100 ns, in the order
in which they count. -/
def truncated (t : DateTime) : Date ×ₗ ℕ ×ₗ ℕ ×ₗ ℕ ×ₗ ℕ :=
  toLex (t.toDate, toLex (t.hour, toLex (t.minute, toLex (t.second, t.nanosecond / 100))))

/-- The seconds from the start of a day to a moment, 86400 to a day. -/
def secondsSince (origin : Date) (t : DateTime) : Int :=
  (t.dayNumber - origin.dayNumber) * 86400 + t.secondOfDay

/-! ### From day to day -/

theorem ticks_midnight_first : (midnight .first).ticks = 0 := by decide

theorem ticks_eq_secondsSince (t : DateTime) : t.ticks =
    t.secondsSince .unixEpoch * 10000000 + (t.nanosecond / 100 : Nat) + 621355968000000000 := by
  have hepoch : Date.unixEpoch.dayNumber = 719162 := by decide
  rw [ticks, secondsSince, hepoch]
  omega

theorem ticks_onDate (t : DateTime) (d : Date) :
    (t.onDate d).ticks = t.ticks + (d.dayNumber - t.dayNumber) * 864000000000 := by
  show (d.dayNumber * 86400 + t.secondOfDay) * 10000000 + (t.nanosecond / 100 : Nat) = _
  rw [ticks]
  omega

/-- From a day to the next, ticks grow by as many as a day has. -/
theorem ticks_onDate_next (t : DateTime) :
    (t.onDate t.toDate.next).ticks = t.ticks + 864000000000 := by
  rw [ticks_onDate, Date.dayNumber_next]
  omega

/-! ### The order of moments -/

theorem truncated_lt_iff : t.truncated < u.truncated ↔ t.toDate < u.toDate ∨
    t.toDate = u.toDate ∧ (t.hour < u.hour ∨ t.hour = u.hour ∧ (t.minute < u.minute ∨
      t.minute = u.minute ∧ (t.second < u.second ∨
        t.second = u.second ∧ t.nanosecond / 100 < u.nanosecond / 100))) := by
  simp only [truncated, Prod.Lex.toLex_lt_toLex]

/-- The time of day takes fewer ticks than a day has. -/
theorem secondOfDay_lt (t : DateTime) : t.secondOfDay < 86400 := by
  have hhour := t.hour_lt
  have hminute := t.minute_lt
  have hsecond := t.second_lt
  rw [secondOfDay]
  omega

theorem ticks_lt_of_truncated_lt (ht : t.IsOrdinary) (h : t.truncated < u.truncated) :
    t.ticks < u.ticks := by
  have hfraction : t.nanosecond / 100 < 10000000 := Nat.div_lt_of_lt_mul ht
  have htime := t.secondOfDay_lt
  have hminute := t.minute_lt
  have hsecond := t.second_lt
  rw [ticks, ticks]
  rcases truncated_lt_iff.mp h with hdate | ⟨hdate, htimes⟩
  · have hday := Date.strictMono_dayNumber hdate
    omega
  · -- On one day the seconds decide, or else the fraction within the same second.
    have hseconds : t.secondOfDay < u.secondOfDay ∨
        t.secondOfDay = u.secondOfDay ∧ t.nanosecond / 100 < u.nanosecond / 100 := by
      rw [secondOfDay, secondOfDay]
      omega
    rw [hdate]
    omega

theorem ticks_eq_of_truncated_eq (h : t.truncated = u.truncated) : t.ticks = u.ticks := by
  simp only [truncated, EmbeddingLike.apply_eq_iff_eq, Prod.mk.injEq] at h
  obtain ⟨hdate, hhour, hminute, hsecond, hfraction⟩ := h
  rw [ticks, ticks, secondOfDay, secondOfDay, hdate, hhour, hminute, hsecond, hfraction]

/-- Ticks compare as the moments do. -/
theorem ticks_lt_iff (ht : t.IsOrdinary) (hu : u.IsOrdinary) :
    t.ticks < u.ticks ↔ t.truncated < u.truncated := by
  -- Moments that are not in this order are the same or in the other one, and so are their ticks.
  refine ⟨fun h => ?_, ticks_lt_of_truncated_lt ht⟩
  rcases lt_trichotomy t.truncated u.truncated with hlt | heq | hgt
  · exact hlt
  · exact absurd (ticks_eq_of_truncated_eq heq) h.ne
  · exact absurd (ticks_lt_of_truncated_lt hu hgt) h.asymm

theorem ticks_eq_iff (ht : t.IsOrdinary) (hu : u.IsOrdinary) :
    t.ticks = u.ticks ↔ t.truncated = u.truncated := by
  refine ⟨fun h => ?_, ticks_eq_of_truncated_eq⟩
  apply le_antisymm
  · rw [← not_lt, ← ticks_lt_iff hu ht]
    exact h.not_gt
  · rw [← not_lt, ← ticks_lt_iff ht hu]
    exact h.not_lt

/-! ### Words of 64 bits -/

/-- The years from 1 to 9999 end before the word does. -/
theorem toInt_ticks (ht : t.IsOrdinary) (hfirst : 1 ≤ t.year) (hlast : t.year ≤ 9999) :
    (Int64.ofInt t.ticks).toInt = t.ticks := by
  have hstart : daysBeforeYear 1 ≤ t.dayNumber :=
    (strictMono_daysBeforeYear.monotone hfirst).trans t.daysBeforeYear_le_dayNumber
  have hend : t.dayNumber < daysBeforeYear 10000 :=
    t.dayNumber_lt_daysBeforeYear.trans_le
      (strictMono_daysBeforeYear.monotone (by omega : t.year + 1 ≤ 10000))
  have hzero : daysBeforeYear 1 = 0 := by decide
  have hdays : daysBeforeYear 10000 = 3652059 := by decide
  have htime := t.secondOfDay_lt
  have hfraction : t.nanosecond / 100 < 10000000 := Nat.div_lt_of_lt_mul ht
  apply Int64.toInt_ofInt_of_le
  · rw [ticks]
    omega
  · rw [ticks]
    omega

/-- In these years the words tell moments apart that differ when truncated to 100 ns. -/
theorem ofInt_ticks_eq_iff (ht : t.IsOrdinary) (hfirst : 1 ≤ t.year) (hlast : t.year ≤ 9999)
    (hu : u.IsOrdinary) (hfirst' : 1 ≤ u.year) (hlast' : u.year ≤ 9999) :
    Int64.ofInt t.ticks = Int64.ofInt u.ticks ↔ t.truncated = u.truncated := by
  rw [← ticks_eq_iff ht hu, ← Int64.toInt_inj, toInt_ticks ht hfirst hlast,
    toInt_ticks hu hfirst' hlast']

/-- Ticks outside of leap seconds: they start with year 1, count the seconds of the proleptic
calendar and units of 100 ns within these, grow by the same amount from each day to the next,
compare as moments truncated to 100 ns do, and for the years from 1 to 9999 a word of 64 bits holds
them and tells them apart. -/
theorem ticks_count_time (ht : t.IsOrdinary) :
    (midnight .first).ticks = 0 ∧
    t.ticks = t.secondsSince .unixEpoch * 10000000 + (t.nanosecond / 100 : Nat) +
      621355968000000000 ∧
    (t.toDate ⋖ t.toDate.next ∧ (t.onDate t.toDate.next).ticks = t.ticks + 864000000000) ∧
    (∀ u, IsOrdinary u → (t.ticks < u.ticks ↔ t.truncated < u.truncated)) ∧
    (1 ≤ t.year → t.year ≤ 9999 → (Int64.ofInt t.ticks).toInt = t.ticks ∧
      ∀ u, IsOrdinary u → 1 ≤ u.year → u.year ≤ 9999 →
        (Int64.ofInt t.ticks = Int64.ofInt u.ticks ↔ t.truncated = u.truncated)) :=
  ⟨ticks_midnight_first, ticks_eq_secondsSince t, ⟨t.toDate.covBy_next, ticks_onDate_next t⟩,
    fun _ hu => ticks_lt_iff ht hu, fun hfirst hlast => ⟨toInt_ticks ht hfirst hlast,
      fun _ hu hfirst' hlast' => ofInt_ticks_eq_iff ht hfirst hlast hu hfirst' hlast'⟩⟩

/-- The last moment of year 9999, the same time of the day after it, and a leap day. -/
theorem ticks_count_time_of_last_moment :
    let t : DateTime :=
      { year := 9999
        month := 12
        day := 31
        hour := 23
        minute := 59
        second := 59
        nanosecond := 999999999 }
    let newYear : Date := { year := 10000, month := 1, day := 1 }
    let u : DateTime := midnight { year := 2000, month := 2, day := 29 }
    t.IsOrdinary ∧ u.IsOrdinary ∧ t.ticks = 3155378975999999999 ∧
      (t.onDate newYear).ticks = t.ticks + 864000000000 ∧ ¬ t.ticks < u.ticks ∧
      (Int64.ofInt t.ticks).toInt = t.ticks ∧ Int64.ofInt t.ticks ≠ Int64.ofInt u.ticks := by
  intro t newYear u
  have ht : t.IsOrdinary := by decide
  have hu : u.IsOrdinary := by decide
  have hnext : t.toDate.next = newYear := by decide
  have horder : ¬ t.truncated < u.truncated := by
    rw [truncated_lt_iff]
    decide
  have hdiffer : t.truncated ≠ u.truncated := by
    intro h
    have := ticks_eq_of_truncated_eq h
    exact absurd this (by decide)
  obtain ⟨-, hcount, ⟨-, hday⟩, hlt, hword⟩ := ticks_count_time ht
  obtain ⟨hint, heq⟩ := hword (by decide) (by decide)
  refine ⟨ht, hu, ?_, hnext ▸ hday, ?_, hint, ?_⟩
  · rw [hcount]
    decide
  · rw [hlt u hu]
    exact horder
  · rw [Ne, heq u hu (by decide) (by decide)]
    exact hdiffer

end DateTime

end RecordTypes
