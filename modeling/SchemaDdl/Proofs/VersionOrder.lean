import Mathlib.Data.List.Basic
import SchemaDdl.Migration
import SchemaDdl.Proofs.Chronology
import SchemaDdl.Proofs.WrittenNumber

/-!
# Versions in the order of time

A version packs the fields of a moment into one number, whose part for the date is negative before
the year 0 while the time of day is always added. Main statement: `Migration.version_chronological`,
which says that versions are in the order of the moments they are made from, cut to whole seconds,
that 64 bits are enough to compute them, and that the fields can be read off the digits of a
version from the year 0 on.
-/

namespace SchemaDdl

/-! ## Order -/

namespace Calendar

/-- Year, month and day as one number, with two decimal places for month and day. -/
def Date.packed (d : Date) : Int := d.year * 10000 + d.month * 100 + d.day

/-- Hour, minute and second as one number, with two decimal places for each. -/
def Time.packed (t : Time) : Nat := t.hour * 10000 + t.minute * 100 + t.second

theorem Date.month_day_lt (d : Date) : d.month < 100 ∧ d.day < 100 := by
  have hmonth := d.month_mem
  have hday := d.day_mem
  have hlast : daysInMonth d.year d.month ≤ 31 := by
    unfold daysInMonth
    split
    · split <;> decide
    all_goals decide
  omega

theorem Date.packed_lt_iff {d d' : Date} : d.packed < d'.packed ↔ d.Before d' := by
  have hfields := d.month_day_lt
  have hfields' := d'.month_day_lt
  unfold packed Before
  omega

theorem Date.packed_inj {d d' : Date} : d.packed = d'.packed ↔ d = d' := by
  refine ⟨fun h => ?_, congrArg packed⟩
  rcases d.before_or d' with hbefore | heq | hafter
  · exact absurd h (Int.ne_of_lt (packed_lt_iff.mpr hbefore))
  · exact heq
  · exact absurd h.symm (Int.ne_of_lt (packed_lt_iff.mpr hafter))

theorem Time.packed_lt (t : Time) : t.packed < 1000000 := by
  have hhour := t.hour_lt
  have hminute := t.minute_lt
  have hsecond := t.second_lt
  unfold packed
  omega

theorem Time.packed_lt_iff {t t' : Time} :
    t.packed < t'.packed ↔ t.secondOfDay < t'.secondOfDay := by
  have hminute := t.minute_lt
  have hminute' := t'.minute_lt
  have hsecond := t.second_lt
  have hsecond' := t'.second_lt
  rw [secondOfDay_lt_iff]
  unfold packed
  omega

theorem Time.packed_eq_iff {t t' : Time} :
    t.packed = t'.packed ↔
      t.hour = t'.hour ∧ t.minute = t'.minute ∧ t.second = t'.second := by
  have hminute := t.minute_lt
  have hminute' := t'.minute_lt
  have hsecond := t.second_lt
  have hsecond' := t'.second_lt
  unfold packed
  omega

end Calendar

namespace Migration

variable {m m' : Migration}

theorem version_eq_packed (m : Migration) :
    m.version = m.timestamp.date.packed * 1000000 + m.timestamp.time.packed := by
  simp only [version, Calendar.Date.packed, Calendar.Time.packed]
  omega

theorem version_lt_iff :
    m.version < m'.version ↔ m.timestamp.wholeSeconds < m'.timestamp.wholeSeconds := by
  have htime := m.timestamp.time.packed_lt
  have htime' := m'.timestamp.time.packed_lt
  rw [Calendar.DateTime.wholeSeconds_lt_iff, ← Calendar.Date.packed_lt_iff,
    ← Calendar.Date.packed_inj, ← Calendar.Time.packed_lt_iff, version_eq_packed,
    version_eq_packed]
  omega

theorem version_eq_iff :
    m.version = m'.version ↔
      m.timestamp.date = m'.timestamp.date ∧ m.timestamp.time.hour = m'.timestamp.time.hour ∧
        m.timestamp.time.minute = m'.timestamp.time.minute ∧
        m.timestamp.time.second = m'.timestamp.time.second := by
  have htime := m.timestamp.time.packed_lt
  have htime' := m'.timestamp.time.packed_lt
  rw [← Calendar.Date.packed_inj, ← Calendar.Time.packed_eq_iff, version_eq_packed,
    version_eq_packed]
  omega

end Migration

/-! ## Range -/

/-- The number, if a signed integer of 64 bits holds it. -/
def int64? (n : Int) : Option Int :=
  if Int64.minValue.toInt ≤ n ∧ n ≤ Int64.maxValue.toInt then some n else none

theorem int64?_eq_some {n : Int} (hmin : -9223372036854775808 ≤ n)
    (hmax : n ≤ 9223372036854775807) : int64? n = some n := if_pos ⟨hmin, hmax⟩

/-- The version, if every product and every sum on the way to it fits 64 bits. -/
def Migration.version64? (m : Migration) : Option Int := do
  let date := m.timestamp.date
  let time := m.timestamp.time
  let years ← int64? (date.year * 10000)
  let months ← int64? (date.month * 100)
  let yearsAndMonths ← int64? (years + months)
  let days ← int64? (yearsAndMonths + date.day)
  let hours ← int64? (time.hour * 10000)
  let minutes ← int64? (time.minute * 100)
  let hoursAndMinutes ← int64? (hours + minutes)
  let seconds ← int64? (hoursAndMinutes + time.second)
  let scaled ← int64? (days * 1000000)
  int64? (scaled + seconds)

theorem Migration.version64?_eq (m : Migration) : m.version64? = some m.version := by
  have hyear := m.timestamp.date.year_mem
  have hmonth := m.timestamp.date.month_day_lt.1
  have hday := m.timestamp.date.month_day_lt.2
  have hhour := m.timestamp.time.hour_lt
  have hminute := m.timestamp.time.minute_lt
  have hsecond := m.timestamp.time.second_lt
  unfold version64? version
  simp (disch := omega) only [int64?_eq_some, Option.bind_eq_bind, Option.bind_some]

/-! ## Digits -/

/-- The fields of a version, the second being one of the sixty of its minute. -/
structure VersionFields where
  year : Nat
  month : Nat
  day : Nat
  hour : Nat
  minute : Nat
  second : Nat
deriving DecidableEq, Repr

namespace VersionFields

/-- Reads the last two digits of a number, and gives what stands before them. -/
def cutPair (digits : List Char) : List Char × Nat :=
  (digits.take (digits.length - 2), Text.digitsValue (digits.drop (digits.length - 2)))

/-- Reads the digits of a version from the end: two for every field but the year, which has what is
left. -/
def read (digits : List Char) : VersionFields :=
  let (digits, second) := cutPair digits
  let (digits, minute) := cutPair digits
  let (digits, hour) := cutPair digits
  let (digits, day) := cutPair digits
  let (digits, month) := cutPair digits
  ⟨Text.digitsValue digits, month, day, hour, minute, second⟩

theorem isDigit_cutPair {digits : List Char} (h : ∀ c ∈ digits, c.isDigit = true) :
    ∀ c ∈ (cutPair digits).1, c.isDigit = true :=
  fun c hc => h c (List.mem_of_mem_take hc)

/-- The pair is worth what the number leaves at division by a hundred, the rest the quotient. -/
theorem cutPair_eq {digits : List Char} (h : ∀ c ∈ digits, c.isDigit = true) :
    Text.digitsValue (cutPair digits).1 = Text.digitsValue digits / 100 ∧
      (cutPair digits).2 = Text.digitsValue digits % 100 := by
  rcases List.eq_nil_or_concat' digits with rfl | ⟨front, last, rfl⟩
  · exact ⟨rfl, rfl⟩
  have hlast : Text.digitValue last < 10 := Text.digitValue_lt (h last (by simp))
  rcases List.eq_nil_or_concat' front with rfl | ⟨begin, beforeLast, rfl⟩
  · -- A single digit is its own pair.
    have hcut : cutPair [last] = ([], Text.digitsValue [last]) := rfl
    have hnone : Text.digitsValue [] = 0 := rfl
    have hvalue : Text.digitsValue [last] = Text.digitValue last := by
      simp [Text.digitsValue]
    rw [List.nil_append, hcut, hvalue]
    simp only [hnone]
    omega
  · have hbeforeLast : Text.digitValue beforeLast < 10 :=
      Text.digitValue_lt (h beforeLast (by simp))
    have hpair : Text.digitsValue [beforeLast, last] =
        10 * Text.digitValue beforeLast + Text.digitValue last := by
      simp [Text.digitsValue]
    have hcut : cutPair (begin ++ [beforeLast] ++ [last]) =
        (begin, Text.digitsValue [beforeLast, last]) := by
      simp [cutPair]
    rw [hcut, hpair, Text.digitsValue_concat, Text.digitsValue_concat]
    simp only
    omega

/-- The fields are what is left of the number between two places. -/
theorem read_eq {digits : List Char} {n : Nat} (h : ∀ c ∈ digits, c.isDigit = true)
    (hn : Text.digitsValue digits = n) :
    read digits = ⟨n / 100 / 100 / 100 / 100 / 100, n / 100 / 100 / 100 / 100 % 100,
      n / 100 / 100 / 100 % 100, n / 100 / 100 % 100, n / 100 % 100, n % 100⟩ := by
  have h₁ := isDigit_cutPair h
  have h₂ := isDigit_cutPair h₁
  have h₃ := isDigit_cutPair h₂
  have h₄ := isDigit_cutPair h₃
  unfold read
  simp only [(cutPair_eq h).1, (cutPair_eq h).2, (cutPair_eq h₁).1, (cutPair_eq h₁).2,
    (cutPair_eq h₂).1, (cutPair_eq h₂).2, (cutPair_eq h₃).1, (cutPair_eq h₃).2,
    (cutPair_eq h₄).1, (cutPair_eq h₄).2, hn]

end VersionFields

namespace Migration

/-- The fields that a version is made of. -/
def fields (m : Migration) : VersionFields :=
  { year := m.timestamp.date.year.toNat
    month := m.timestamp.date.month
    day := m.timestamp.date.day
    hour := m.timestamp.time.hour
    minute := m.timestamp.time.minute
    second := m.timestamp.time.second }

theorem read_version {m : Migration} (h : 0 ≤ m.timestamp.date.year) :
    VersionFields.read (toString m.version).toList = m.fields := by
  have hmonth := m.timestamp.date.month_day_lt.1
  have hday := m.timestamp.date.month_day_lt.2
  have hhour := m.timestamp.time.hour_lt
  have hminute := m.timestamp.time.minute_lt
  have hsecond := m.timestamp.time.second_lt
  obtain ⟨year, hyear⟩ := Int.eq_ofNat_of_zero_le h
  have hversion : m.version = ((year * 10000 + m.timestamp.date.month * 100 +
      m.timestamp.date.day) * 1000000 + (m.timestamp.time.hour * 10000 +
      m.timestamp.time.minute * 100 + m.timestamp.time.second) : Nat) := by
    simp only [version]
    omega
  have hdigits : (toString m.version).toList = Nat.toDigits 10 m.version.toNat := by
    rw [hversion]
    exact Nat.toList_repr
  rw [hdigits, VersionFields.read_eq
    (fun c hc => Nat.isDigit_of_mem_toDigits (by decide) (by decide) hc)
    (Text.digitsValue_toDigits _), hversion, fields, hyear]
  simp only [VersionFields.mk.injEq, Int.toNat_natCast]
  omega

/-- Versions are in the order of the moments that they are made from, to the second; 64 bits hold
all numbers on the way to them; and from the year 0 on their digits give the fields back. -/
theorem version_chronological (m m' : Migration) :
    (m.version < m'.version ↔ m.timestamp.wholeSeconds < m'.timestamp.wholeSeconds) ∧
      (m.version = m'.version ↔
        m.timestamp.date = m'.timestamp.date ∧ m.timestamp.time.hour = m'.timestamp.time.hour ∧
          m.timestamp.time.minute = m'.timestamp.time.minute ∧
          m.timestamp.time.second = m'.timestamp.time.second) ∧
      m.version64? = some m.version ∧
      (0 ≤ m.timestamp.date.year →
        VersionFields.read (toString m.version).toList = m.fields) :=
  ⟨version_lt_iff, version_eq_iff, m.version64?_eq, read_version⟩

/-- A migration of the year before the year 0, whose version is negative. -/
def inYearMinusOne : Migration where
  timestamp :=
    { date := ⟨-1, 10, 29, by decide, by decide, by decide⟩
      time := ⟨21, 22, 58, 2, by decide, by decide, by decide, by decide⟩ }
  label := "earlier"
  tag := none
  label_le := by decide

/-- A migration of the year 0, whose version has no digits for the year. -/
def inYearZero : Migration where
  timestamp :=
    { date := ⟨0, 6, 7, by decide, by decide, by decide⟩
      time := ⟨9, 8, 7, 1, by decide, by decide, by decide, by decide⟩ }
  label := "later"
  tag := none
  label_le := by decide

theorem version_yearZero :
    inYearMinusOne.version = -8970787742 ∧ inYearMinusOne.version < inYearZero.version ∧
      0 ≤ inYearZero.timestamp.date.year ∧ toString inYearZero.version = "607090807" ∧
      VersionFields.read "607090807".toList = ⟨0, 6, 7, 9, 8, 7⟩ := by
  obtain ⟨hlt, -⟩ := version_chronological inYearMinusOne inYearZero
  obtain ⟨-, -, -, hread⟩ := version_chronological inYearZero inYearMinusOne
  have hearlier : inYearMinusOne.timestamp.wholeSeconds < inYearZero.timestamp.wholeSeconds := by
    decide
  have hdigits : toString inYearZero.version = "607090807" := by decide
  have hyear : 0 ≤ inYearZero.timestamp.date.year := by decide
  refine ⟨by decide, hlt.mpr hearlier, hyear, hdigits, ?_⟩
  rw [← hdigits]
  exact hread hyear

end Migration

end SchemaDdl
