import SchemaDdl.Calendar.DateTime

/-!
# Counting days and seconds

The moments of the calendar on one scale: days are counted from the first of January of the year 1,
which is day 1, and seconds of a day from midnight. `Date.dayNumber_lt_iff` says that counting days
puts dates in the order of year, month and day, and `Time.secondOfDay_lt_iff` says the same of hour,
minute and second.
-/

namespace SchemaDdl.Calendar

/-! ## Years -/

def daysInYear (year : Int) : Nat := if isLeapYear year then 366 else 365

/-- The days from the first of January of the year 1 to that of another year. -/
def daysBeforeYear (year : Int) : Int :=
  365 * (year - 1) + (year - 1) / 4 - (year - 1) / 100 + (year - 1) / 400

theorem isLeapYear_iff (year : Int) :
    isLeapYear year = true ↔ year % 4 = 0 ∧ (year % 100 ≠ 0 ∨ year % 400 = 0) := by
  simp [isLeapYear]

theorem daysBeforeYear_succ (year : Int) :
    daysBeforeYear (year + 1) = daysBeforeYear year + daysInYear year := by
  have hfour : year / 4 = (year - 1) / 4 + if year % 4 = 0 then 1 else 0 := by split <;> omega
  have hhundred : year / 100 = (year - 1) / 100 + if year % 100 = 0 then 1 else 0 := by
    split <;> omega
  have hfourHundred : year / 400 = (year - 1) / 400 + if year % 400 = 0 then 1 else 0 := by
    split <;> omega
  have hleap : (daysInYear year : Int) = 365 + (if year % 4 = 0 then 1 else 0) -
      (if year % 100 = 0 then 1 else 0) + if year % 400 = 0 then 1 else 0 := by
    unfold daysInYear
    simp only [isLeapYear_iff]
    split <;> split <;> split <;> split <;> omega
  unfold daysBeforeYear
  rw [Int.add_sub_cancel, hleap, hfour, hhundred, hfourHundred]
  omega

theorem daysBeforeYear_add_le {year year' : Int} (h : year < year') :
    daysBeforeYear year + daysInYear year ≤ daysBeforeYear year' := by
  rw [← daysBeforeYear_succ]
  unfold daysBeforeYear
  omega

/-! ## Months -/

/-- The days of a year before a month. -/
def daysBeforeMonth (year : Int) : Nat → Nat
  | 0 | 1 => 0
  | month + 2 => daysBeforeMonth year (month + 1) + daysInMonth year (month + 1)

theorem daysBeforeMonth_add_le (year : Int) {month month' : Nat} (hpos : 1 ≤ month)
    (h : month < month') :
    daysBeforeMonth year month + daysInMonth year month ≤ daysBeforeMonth year month' := by
  induction month' with
  | zero => omega
  | succ later ih =>
    obtain ⟨before, rfl⟩ : ∃ before, later = before + 1 := ⟨later - 1, by omega⟩
    rw [daysBeforeMonth]
    rcases Nat.lt_or_ge month (before + 1) with hlt | hge
    · exact Nat.le_add_right_of_le (ih hlt)
    · have hlast : month = before + 1 := by omega
      subst hlast
      exact Nat.le_refl _

theorem daysBeforeMonth_thirteen (year : Int) : daysBeforeMonth year 13 = daysInYear year := by
  simp only [daysBeforeMonth, daysInMonth, daysInYear]
  split <;> rfl

/-! ## Dates -/

namespace Date

/-- The day of the year, from 1. -/
def dayOfYear (d : Date) : Nat := daysBeforeMonth d.year d.month + d.day

/-- The day counted from the first of January of the year 1, which is day 1. -/
def dayNumber (d : Date) : Int := daysBeforeYear d.year + d.dayOfYear

/-- The order of dates by year, month and day. -/
def Before (d d' : Date) : Prop :=
  d.year < d'.year ∨ d.year = d'.year ∧
    (d.month < d'.month ∨ d.month = d'.month ∧ d.day < d'.day)

theorem before_or (d d' : Date) : d.Before d' ∨ d = d' ∨ d'.Before d := by
  obtain ⟨year, month, day, -, -, -⟩ := d
  obtain ⟨year', month', day', -, -, -⟩ := d'
  simp only [Before, mk.injEq]
  omega

theorem one_le_dayOfYear (d : Date) : 1 ≤ d.dayOfYear := by
  have hday := d.day_mem
  unfold dayOfYear
  omega

theorem dayOfYear_le (d : Date) : d.dayOfYear ≤ daysInYear d.year := by
  have hmonth := d.month_mem
  have hday := d.day_mem
  have hlast := daysBeforeMonth_add_le d.year hmonth.1 (show d.month < 13 by omega)
  rw [daysBeforeMonth_thirteen] at hlast
  unfold dayOfYear
  omega

theorem dayNumber_lt_of_before {d d' : Date} (h : d.Before d') : d.dayNumber < d'.dayNumber := by
  rcases h with hyear | ⟨hyear, hmonth | ⟨hmonth, hday⟩⟩
  · have hyears := daysBeforeYear_add_le hyear
    have hend := d.dayOfYear_le
    have hbegin := d'.one_le_dayOfYear
    unfold dayNumber
    omega
  · have hmonths := daysBeforeMonth_add_le d.year d.month_mem.1 hmonth
    have hend := d.day_mem.2
    have hbegin := d'.day_mem.1
    unfold dayNumber dayOfYear
    rw [← hyear]
    omega
  · unfold dayNumber dayOfYear
    rw [← hyear, ← hmonth]
    omega

theorem dayNumber_lt_iff {d d' : Date} : d.dayNumber < d'.dayNumber ↔ d.Before d' := by
  refine ⟨fun h => ?_, dayNumber_lt_of_before⟩
  rcases d.before_or d' with hbefore | rfl | hafter
  · exact hbefore
  · exact absurd h (Int.lt_irrefl _)
  · exact absurd (Int.lt_trans h (dayNumber_lt_of_before hafter)) (Int.lt_irrefl _)

theorem dayNumber_inj {d d' : Date} : d.dayNumber = d'.dayNumber ↔ d = d' := by
  refine ⟨fun h => ?_, congrArg dayNumber⟩
  rcases d.before_or d' with hbefore | heq | hafter
  · exact absurd h (Int.ne_of_lt (dayNumber_lt_of_before hbefore))
  · exact heq
  · exact absurd h.symm (Int.ne_of_lt (dayNumber_lt_of_before hafter))

-- The day from which Unix time counts.
example : dayNumber ⟨1970, 1, 1, by decide, by decide, by decide⟩ = 719163 := by decide

end Date

/-! ## Times of day -/

namespace Time

/-- The whole seconds since midnight. A leap second counts as the second before it. -/
def secondOfDay (t : Time) : Nat := t.hour * 3600 + t.minute * 60 + t.second

theorem secondOfDay_lt (t : Time) : t.secondOfDay < 86400 := by
  have hhour := t.hour_lt
  have hminute := t.minute_lt
  have hsecond := t.second_lt
  unfold secondOfDay
  omega

theorem secondOfDay_lt_iff {t t' : Time} :
    t.secondOfDay < t'.secondOfDay ↔
      t.hour < t'.hour ∨ t.hour = t'.hour ∧
        (t.minute < t'.minute ∨ t.minute = t'.minute ∧ t.second < t'.second) := by
  have hminute := t.minute_lt
  have hminute' := t'.minute_lt
  have hsecond := t.second_lt
  have hsecond' := t'.second_lt
  unfold secondOfDay
  omega

end Time

/-! ## Moments -/

/-- The moment cut to whole seconds and counted in seconds. -/
def DateTime.wholeSeconds (m : DateTime) : Int := m.date.dayNumber * 86400 + m.time.secondOfDay

theorem DateTime.wholeSeconds_lt_iff {m m' : DateTime} :
    m.wholeSeconds < m'.wholeSeconds ↔
      m.date.Before m'.date ∨ m.date = m'.date ∧ m.time.secondOfDay < m'.time.secondOfDay := by
  have hseconds := m.time.secondOfDay_lt
  have hseconds' := m'.time.secondOfDay_lt
  rw [← Date.dayNumber_lt_iff, ← Date.dayNumber_inj]
  unfold wholeSeconds
  omega

end SchemaDdl.Calendar
