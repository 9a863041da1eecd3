import Std.Data.String.ToInt
import SchemaDdl.Proofs.Builtin
import SchemaDdl.Proofs.CalendarReading
import SchemaDdl.Proofs.Lexical.Unquoted

/-!
# Literals tell values apart

The literals of two values of one form are the same text exactly if the values are the same, where
times count as a clock shows them and up to the unit in which the dialect writes them:
`Builtin.faithful_of_literal`. Floats are left out. A time stands in its literal with the hour, the
minute and the second of the clock, so nothing is carried when a fraction is cut off, and a dialect
with a fixed number of digits writes the whole units of the fraction in them. What no literal tells
is whether a second that is not the last of its minute runs on: `Builtin.literal_runningOn`.
-/

namespace SchemaDdl

open Calendar (Date DateTime Fraction Time)
open Calendar.Reader (NoDigit)

/-! ## What a literal tells of a time -/

namespace Calendar.Time

def clock (t : Time) : String :=
  Text.paddedNumber 2 t.hour ++ ":" ++ Text.paddedNumber 2 t.minute ++ ":" ++
    Text.paddedNumber 2 t.shownSecond

/-- The second 60 is a leap second, at the end of a minute. -/
theorem shownSecond_eq_sixty_iff {t : Time} :
    t.shownSecond = 60 ↔ t.second = 59 ∧ 1000000000 ≤ t.nanosecond := by
  have hsecond := t.second_lt
  have hnanosecond := t.nanosecond_lt
  unfold shownSecond
  omega

end Calendar.Time

namespace Text

/-- The text holds the part, with no digit right before or right behind it. -/
def StandsAlone (part s : String) : Prop :=
  ∃ before after, s = before ++ part ++ after ∧
    NoDigit before.toList.reverse ∧ NoDigit after.toList

/-- A point and exactly `count` digits, which are worth `n`. -/
def IsFraction (count n : Nat) (s : String) : Prop :=
  ∃ digits : List Char, s = "." ++ String.ofList digits ∧ digits.length = count ∧
    (∀ c ∈ digits, c.isDigit = true) ∧ digitsValue digits = n

end Text

namespace Literal

/-- The literal with its time of day at the beginning of its unit, if it has one. -/
def truncate (unit : Nat) : Literal → Literal
  | time t => time (t.truncate unit)
  | dateTime m => dateTime (m.truncate unit)
  | l => l

/-- The literal with the regular time of those that show alike, if it has a time of day. -/
def regular : Literal → Literal
  | time t => time t.regular
  | dateTime m => dateTime m.regular
  | l => l

/-- The time of day of a literal that has one. -/
def time? : Literal → Option Time
  | time t => some t
  | dateTime m => some m.time
  | _ => none

@[simp] theorem truncate_one (l : Literal) : l.truncate 1 = l := by
  cases l <;> simp [truncate]

theorem time?_eq_none_iff {l : Literal} :
    l.time? = none ↔ l.form ≠ .time ∧ l.form ≠ .dateTime := by
  cases l <;> simp [time?, form]

theorem truncate_of_time? {l : Literal} (h : l.time? = none) (unit : Nat) :
    l.truncate unit = l := by
  cases l with
  | time | dateTime => cases h
  | _ => rfl

theorem time?_truncate (unit : Nat) (l : Literal) :
    (l.truncate unit).time? = l.time?.map (·.truncate unit) := by
  cases l <;> rfl

theorem time?_regular (l : Literal) : l.regular.time? = l.time?.map (·.regular) := by
  cases l <;> rfl

/-- In a time of day, if there is one, no second runs on but the last one of a minute. -/
def IsRegular (l : Literal) : Prop := ∀ t, l.time? = some t → t.IsRegular

theorem regular_of_isRegular {l : Literal} (h : l.IsRegular) : l.regular = l := by
  cases l with
  | time t => exact congrArg time (Time.regular_of_isRegular (h t rfl))
  | dateTime m =>
    have htime : m.time.regular = m.time := Time.regular_of_isRegular (h m.time rfl)
    rw [regular, DateTime.regular, htime]
  | _ => rfl

theorem isRegular_of_time? {l : Literal} (h : l.time? = none) : l.IsRegular := by
  intro t ht
  rw [h] at ht
  cases ht

end Literal

namespace Builtin

/-- How the dialect writes the fraction of a second. -/
def fraction : Builtin → Fraction
  | informix => .places 5
  | postgresql | sqlite => .asNeeded
  | sqlServer => .places 3

/-- The unit of the times of the dialect, in nanoseconds. -/
def timeUnit : Builtin → Nat
  | informix => 10000
  | postgresql | sqlite => 1
  | sqlServer => 1000000

theorem unit_fraction (b : Builtin) : b.fraction.unit = b.timeUnit := by
  cases b <;> rfl

theorem readable_fraction (b : Builtin) : b.fraction.Readable := by
  cases b with
  | postgresql | sqlite => trivial
  | informix | sqlServer => exact ⟨by decide, by decide⟩

/-- A second is a whole number of the units of the dialect. -/
theorem timeUnit_dvd (b : Builtin) : b.timeUnit ∣ 1000000000 := by
  rw [← unit_fraction]
  exact b.fraction.unit_dvd

/-- What the literals `s` and `s'` of two values tell of the values. -/
structure Faithful (b : Builtin) (l l' : Literal) (s s' : String) : Prop where
  /-- The texts are the same where the values show alike, up to the unit of times. -/
  eq_iff : s = s' ↔ l.regular.truncate b.timeUnit = l'.regular.truncate b.timeUnit
  /-- The values are then the same, unless a second runs on before the end of a minute. -/
  eq_iff_of_isRegular : l.IsRegular → l'.IsRegular →
    (s = s' ↔ l.truncate b.timeUnit = l'.truncate b.timeUnit)
  /-- Nothing is lost of a value without a time of day. -/
  timeless : l.time? = none → (s = s' ↔ l = l')
  /-- Nor of what a clock shows, if the unit is the nanosecond. -/
  lossless : b.timeUnit = 1 → (s = s' ↔ l.regular = l'.regular)
  /-- The second is never lost: a leap second is not the second before it. -/
  second : ∀ t t', l.time? = some t → l'.time? = some t' → t.shownSecond ≠ t'.shownSecond → s ≠ s'
  /-- A leap second counts as the second 60. -/
  sixty : ∀ t, l.time? = some t →
    (t.shownSecond = 60 ↔ t.second = 59 ∧ 1000000000 ≤ t.nanosecond)
  /-- A time stands in its literal as the clock shows it, cut off behind the digits that the dialect
  writes. -/
  shown : ∀ t, l.time? = some t → ∃ fraction, Text.StandsAlone (t.clock ++ fraction) s ∧
    NoDigit fraction.toList ∧ ∀ count, b.fraction = .places count →
      Text.IsFraction count (t.shownNanosecond / b.timeUnit) fraction

end Builtin

/-! ## Texts between fixed texts -/

namespace Text

theorem stringLiteral_inj {s s' : String} : stringLiteral s = stringLiteral s' ↔ s = s' := by
  constructor
  · intro h
    have hread := Quote.single.read?_encode s [] (by simp)
    rw [show Quote.single.encode s = Quote.single.encode s' from h,
      Quote.single.read?_encode s' [] (by simp)] at hread
    exact String.toList_inj.mp (Prod.mk.inj (Option.some.inj hread)).1.symm
  · rintro rfl
    rfl

end Text

namespace Builtin

variable {b : Builtin} {s s' : String}

theorem bool_eq_iff {v v' : Bool} (h : b.dialect.literal (.bool v) = .ok s)
    (h' : b.dialect.literal (.bool v') = .ok s') : s = s' ↔ v = v' := by
  cases b <;> cases h <;> cases h' <;> cases v <;> cases v' <;> decide

theorem int_eq_iff {n n' : Int64} (h : b.dialect.literal (.int n) = .ok s)
    (h' : b.dialect.literal (.int n') = .ok s') : s = s' ↔ n = n' := by
  have hcommon : ∀ n : Int64, b.dialect.literal (.int n) = .ok (toString n.toInt) := by
    intro n
    cases b <;> rfl
  rw [hcommon] at h h'
  cases h
  cases h'
  exact Int.repr_inj.trans Int64.toInt_inj

theorem text_eq_iff {x x' : String} (h : b.dialect.literal (.text x) = .ok s)
    (h' : b.dialect.literal (.text x') = .ok s') : s = s' ↔ x = x' := by
  cases b with
  | informix | postgresql | sqlite =>
    cases h
    cases h'
    exact Text.stringLiteral_inj
  | sqlServer =>
    cases h
    cases h'
    exact (String.append_right_inj "N").trans Text.stringLiteral_inj

theorem binary_eq_iff {x x' : List UInt8} (h : b.dialect.literal (.binary x) = .ok s)
    (h' : b.dialect.literal (.binary x') = .ok s') : s = s' ↔ x = x' := by
  cases b with
  | informix => cases h
  | postgresql | sqlite =>
    cases h
    cases h'
    rw [String.append_left_inj, String.append_right_inj, Text.hexUpper_inj]
  | sqlServer =>
    cases h
    cases h'
    rw [String.append_right_inj, Text.hexUpper_inj]

theorem date_eq_iff {d d' : Date} (h : b.dialect.literal (.date d) = .ok s)
    (h' : b.dialect.literal (.date d') = .ok s') : s = s' ↔ d = d' := by
  cases b with
  | informix | postgresql =>
    rw [← Except.ok.inj h, ← Except.ok.inj h', String.append_left_inj, String.append_right_inj,
      Date.iso_inj]
  | sqlite =>
    rw [← Except.ok.inj h, ← Except.ok.inj h', Text.stringLiteral_inj, Date.iso_inj]
  | sqlServer =>
    rw [← Except.ok.inj h, ← Except.ok.inj h', String.append_left_inj, String.append_right_inj,
      Date.compact_inj]

/-- A time stands between fixed texts, whatever the time. -/
theorem exists_literal_time (b : Builtin) : ∃ opening closing : String,
    NoDigit opening.toList.reverse ∧ NoDigit closing.toList ∧
      ∀ t, b.dialect.literal (.time t) = .ok (opening ++ t.text b.fraction ++ closing) := by
  cases b with
  | informix =>
    exact ⟨"DATETIME (", ") HOUR TO FRACTION(5)", by simp [NoDigit], by simp [NoDigit],
      fun _ => rfl⟩
  | postgresql => exact ⟨"TIME '", "'", by simp [NoDigit], by simp [NoDigit], fun _ => rfl⟩
  | sqlite =>
    refine ⟨"'", "'", by simp [NoDigit], by simp [NoDigit], fun t => ?_⟩
    have hquoted : Lexical.Unquoted (t.text .asNeeded) := .word (Lexical.word_time t .asNeeded)
    exact congrArg Except.ok hquoted.stringLiteral_eq
  | sqlServer => exact ⟨"'", "'", by simp [NoDigit], by simp [NoDigit], fun _ => rfl⟩

/-- So does a date with a time, with a separator that is fixed too. -/
theorem exists_literal_dateTime (b : Builtin) : ∃ opening separator closing : String,
    (∀ before : String, NoDigit (before ++ separator).toList.reverse) ∧ NoDigit closing.toList ∧
      ∀ m, b.dialect.literal (.dateTime m) =
        .ok (opening ++ m.text separator b.fraction ++ closing) := by
  cases b with
  | informix =>
    exact ⟨"DATETIME (", " ", ") YEAR TO FRACTION(5)", by simp [NoDigit], by simp [NoDigit],
      fun _ => rfl⟩
  | postgresql =>
    exact ⟨"TIMESTAMP '", " ", "'", by simp [NoDigit], by simp [NoDigit], fun _ => rfl⟩
  | sqlite =>
    refine ⟨"'", " ", "'", by simp [NoDigit], by simp [NoDigit], fun m => ?_⟩
    have hquoted : Lexical.Unquoted (m.text " " .asNeeded) :=
      Lexical.unquoted_dateTime m (by decide) .asNeeded
    exact congrArg Except.ok hquoted.stringLiteral_eq
  | sqlServer => exact ⟨"'", "T", "'", by simp [NoDigit], by simp [NoDigit], fun _ => rfl⟩

theorem time_eq_iff {t t' : Time} (h : b.dialect.literal (.time t) = .ok s)
    (h' : b.dialect.literal (.time t') = .ok s') :
    s = s' ↔ t.regular.truncate b.timeUnit = t'.regular.truncate b.timeUnit := by
  obtain ⟨opening, closing, -, -, hliteral⟩ := b.exists_literal_time
  rw [← Except.ok.inj ((hliteral t).symm.trans h), ← Except.ok.inj ((hliteral t').symm.trans h'),
    String.append_left_inj, String.append_right_inj, Time.text_inj b.readable_fraction,
    unit_fraction]

theorem dateTime_eq_iff {m m' : DateTime} (h : b.dialect.literal (.dateTime m) = .ok s)
    (h' : b.dialect.literal (.dateTime m') = .ok s') :
    s = s' ↔ m.regular.truncate b.timeUnit = m'.regular.truncate b.timeUnit := by
  obtain ⟨opening, separator, closing, -, -, hliteral⟩ := b.exists_literal_dateTime
  rw [← Except.ok.inj ((hliteral m).symm.trans h), ← Except.ok.inj ((hliteral m').symm.trans h'),
    String.append_left_inj, String.append_right_inj,
    DateTime.text_inj separator b.readable_fraction, unit_fraction]

theorem literal_eq_iff {l l' : Literal} (hform : l.form = l'.form) (hfloat : l.form ≠ .float)
    (h : b.dialect.literal l = .ok s) (h' : b.dialect.literal l' = .ok s') :
    s = s' ↔ l.regular.truncate b.timeUnit = l'.regular.truncate b.timeUnit := by
  -- The form leaves one constructor for the second literal.
  cases l with
  | float x => exact absurd rfl hfloat
  | null =>
    cases l' <;> cases hform
    simp [Except.ok.inj (h.symm.trans h')]
  | bool v =>
    cases l' <;> cases hform
    simpa [Literal.truncate, Literal.regular] using bool_eq_iff h h'
  | int n =>
    cases l' <;> cases hform
    simpa [Literal.truncate, Literal.regular] using int_eq_iff h h'
  | text x =>
    cases l' <;> cases hform
    simpa [Literal.truncate, Literal.regular] using text_eq_iff h h'
  | date d =>
    cases l' <;> cases hform
    simpa [Literal.truncate, Literal.regular] using date_eq_iff h h'
  | dateTime m =>
    cases l' <;> cases hform
    simpa [Literal.truncate, Literal.regular] using dateTime_eq_iff h h'
  | time t =>
    cases l' <;> cases hform
    simpa [Literal.truncate, Literal.regular] using time_eq_iff h h'
  | binary bytes =>
    cases l' <;> cases hform
    simpa [Literal.truncate, Literal.regular] using binary_eq_iff h h'

/-! ## Times in their literals -/

theorem standsAlone_text {l : Literal} {t : Time} (ht : l.time? = some t)
    (h : b.dialect.literal l = .ok s) : Text.StandsAlone (t.text b.fraction) s := by
  cases l with
  | time t =>
    cases ht
    obtain ⟨opening, closing, hopening, hclosing, hliteral⟩ := b.exists_literal_time
    rw [← Except.ok.inj ((hliteral t).symm.trans h)]
    exact ⟨opening, closing, rfl, hopening, hclosing⟩
  | dateTime m =>
    cases ht
    obtain ⟨opening, separator, closing, hseparator, hclosing, hliteral⟩ :=
      b.exists_literal_dateTime
    rw [← Except.ok.inj ((hliteral m).symm.trans h)]
    refine ⟨opening ++ m.date.iso ++ separator, closing, ?_, hseparator _, hclosing⟩
    simp only [DateTime.text, String.append_assoc]
  | _ => cases ht

theorem noDigit_fractionText (t : Time) (f : Fraction) : NoDigit (t.fractionText f).toList := by
  have hdigits : ∀ count n, NoDigit (Time.fractionDigits count n).toList := by
    intro count n
    simp [NoDigit, Time.fractionDigits]
  cases f with
  | places count => exact hdigits count t.shownNanosecond
  | asNeeded =>
    unfold Time.fractionText
    simp only
    split_ifs
    · simp [NoDigit]
    all_goals exact hdigits _ t.shownNanosecond

theorem isFraction_fractionText (t : Time) {count : Nat} (hcount : b.fraction = .places count) :
    Text.IsFraction count (t.shownNanosecond / b.timeUnit) (t.fractionText b.fraction) := by
  have hreadable : 1 ≤ count ∧ count ≤ 9 := by
    have hreadable := b.readable_fraction
    rwa [hcount] at hreadable
  rw [← unit_fraction, hcount]
  exact ⟨_, rfl, Text.length_fixedDigits _ _, fun _ => Text.isDigit_of_mem_fixedDigits,
    Time.digitsValue_fraction hreadable.2 t.shownNanosecond_lt⟩

/-- Two values of one form that a dialect writes, whatever their dates, texts, bytes and numbers. -/
theorem faithful_of_literal {l l' : Literal} (hform : l.form = l'.form) (hfloat : l.form ≠ .float)
    (h : b.dialect.literal l = .ok s) (h' : b.dialect.literal l' = .ok s') :
    b.Faithful l l' s s' where
  eq_iff := literal_eq_iff hform hfloat h h'
  eq_iff_of_isRegular := by
    intro hregular hregular'
    rw [literal_eq_iff hform hfloat h h', Literal.regular_of_isRegular hregular,
      Literal.regular_of_isRegular hregular']
  timeless := by
    intro hnone
    have hnone' : l'.time? = none := by
      rw [Literal.time?_eq_none_iff, ← hform]
      exact Literal.time?_eq_none_iff.mp hnone
    rw [literal_eq_iff hform hfloat h h',
      Literal.regular_of_isRegular (Literal.isRegular_of_time? hnone),
      Literal.regular_of_isRegular (Literal.isRegular_of_time? hnone'),
      Literal.truncate_of_time? hnone, Literal.truncate_of_time? hnone']
  lossless := by
    intro hunit
    rw [literal_eq_iff hform hfloat h h', hunit, Literal.truncate_one, Literal.truncate_one]
  second := by
    intro t t' ht ht' hsecond hs
    have htimes := congrArg Literal.time? ((literal_eq_iff hform hfloat h h').mp hs)
    simp only [Literal.time?_truncate, Literal.time?_regular, ht, ht', Option.map_some] at htimes
    have hshown : ∀ t : Time, (t.regular.truncate b.timeUnit).shownSecond = t.shownSecond :=
      fun t => (Time.shown_truncate b.timeUnit_dvd _).1.trans t.shown_regular.1
    rw [← hshown t, ← hshown t', Option.some.inj htimes] at hsecond
    exact hsecond rfl
  sixty := fun _ _ => Time.shownSecond_eq_sixty_iff
  shown := by
    intro t ht
    exact ⟨t.fractionText b.fraction, standsAlone_text ht h, noDigit_fractionText t _,
      fun count hcount => isFraction_fractionText t hcount⟩

/-- A nanosecond of a leap second before the year 0. -/
def leapSecond (nanosecond : Nat) (h : nanosecond < 1000000000) : Literal :=
  .dateTime ⟨⟨-5, 12, 31, by decide, by decide, by decide⟩,
    ⟨23, 59, 59, 1000000000 + nanosecond, by decide, by decide, by decide, by omega⟩⟩

/-- The two are written alike: what tells them apart is less than a millisecond. -/
theorem faithful_leapSecond :
    (leapSecond 999000001 (by decide)).form = (leapSecond 999999999 (by decide)).form ∧
    (leapSecond 999000001 (by decide)).form ≠ .float ∧
    Builtin.sqlServer.dialect.literal (leapSecond 999000001 (by decide)) =
      .ok "'-0005-12-31T23:59:60.999'" ∧
    Builtin.sqlServer.dialect.literal (leapSecond 999999999 (by decide)) =
      .ok "'-0005-12-31T23:59:60.999'" ∧
    Builtin.sqlServer.Faithful (leapSecond 999000001 (by decide))
      (leapSecond 999999999 (by decide)) "'-0005-12-31T23:59:60.999'"
      "'-0005-12-31T23:59:60.999'" := by
  have hform : (leapSecond 999000001 (by decide)).form = (leapSecond 999999999 (by decide)).form :=
    rfl
  have hfloat : (leapSecond 999000001 (by decide)).form ≠ .float := by decide
  have h : Builtin.sqlServer.dialect.literal (leapSecond 999000001 (by decide)) =
      .ok "'-0005-12-31T23:59:60.999'" := rfl
  have h' : Builtin.sqlServer.dialect.literal (leapSecond 999999999 (by decide)) =
      .ok "'-0005-12-31T23:59:60.999'" := rfl
  exact ⟨hform, hfloat, h, h', faithful_of_literal hform hfloat h h'⟩

/-- The second 33 of a minute, which runs on by a third of a second. -/
def runningOn : Literal :=
  .time ⟨23, 56, 33, 1333333333, by decide, by decide, by decide, by decide⟩

/-- A third of a second into the second 34 of the same minute. -/
def nextSecond : Literal :=
  .time ⟨23, 56, 34, 333333333, by decide, by decide, by decide, by decide⟩

/-- Two values that differ by more than the unit of any dialect and have one literal in each. -/
theorem literal_runningOn :
    (Builtin.postgresql.dialect.literal runningOn = .ok "TIME '23:56:34.333333333'" ∧
      Builtin.postgresql.dialect.literal nextSecond = .ok "TIME '23:56:34.333333333'") ∧
    (Builtin.sqlite.dialect.literal runningOn = .ok "'23:56:34.333333333'" ∧
      Builtin.sqlite.dialect.literal nextSecond = .ok "'23:56:34.333333333'") ∧
    (Builtin.sqlServer.dialect.literal runningOn = .ok "'23:56:34.333'" ∧
      Builtin.sqlServer.dialect.literal nextSecond = .ok "'23:56:34.333'") ∧
    (Builtin.informix.dialect.literal runningOn =
        .ok "DATETIME (23:56:34.33333) HOUR TO FRACTION(5)" ∧
      Builtin.informix.dialect.literal nextSecond =
        .ok "DATETIME (23:56:34.33333) HOUR TO FRACTION(5)") ∧
    runningOn ≠ nextSecond ∧
    runningOn.truncate Builtin.sqlServer.timeUnit ≠
      nextSecond.truncate Builtin.sqlServer.timeUnit ∧
    runningOn.truncate Builtin.informix.timeUnit ≠
      nextSecond.truncate Builtin.informix.timeUnit := by
  refine ⟨⟨rfl, rfl⟩, ⟨rfl, rfl⟩, ⟨rfl, rfl⟩, ⟨rfl, rfl⟩, ?_, ?_, ?_⟩ <;> decide

end Builtin

end SchemaDdl
