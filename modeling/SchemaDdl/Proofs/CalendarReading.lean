import SchemaDdl.Calendar.Parser
import SchemaDdl.Proofs.WrittenNumber

/-!
# Reading written dates and times

The readers undo the writers. `Reader.date_iso` says it of dates, whatever their year and whatever
follows them, and `Reader.time_text` of times, up to the part of the second that is not written. So
texts tell dates and times apart, as far as they write them.

A text holds what a clock shows. A second that runs on shows like the second after it, so that what
is read back is the `Time.regular` one of the times that show alike: only the last second of a
minute runs on there.
-/

namespace SchemaDdl.Calendar

/-! ## Times that a clock shows alike -/

namespace Time

/-- No second runs on but the last one of a minute. -/
def IsRegular (t : Time) : Prop := t.nanosecond < 1000000000 ∨ t.second = 59

instance (t : Time) : Decidable t.IsRegular := inferInstanceAs (Decidable (_ ∨ _))

/-- The regular time that shows like this one. -/
def regular (t : Time) : Time :=
  if h : t.IsRegular then t
  else
    { t with
      second := t.second + 1
      nanosecond := t.nanosecond - 1000000000
      second_lt := by
        have hsecond := t.second_lt
        unfold IsRegular at h
        omega
      nanosecond_lt := Nat.lt_of_le_of_lt (Nat.sub_le _ _) t.nanosecond_lt }

theorem regular_of_isRegular {t : Time} (h : t.IsRegular) : t.regular = t := dif_pos h

theorem regular_of_not_isRegular {t : Time} (h : ¬t.IsRegular) :
    (t.regular.hour = t.hour ∧ t.regular.minute = t.minute) ∧
      t.regular.second = t.second + 1 ∧ t.regular.nanosecond = t.nanosecond - 1000000000 := by
  rw [regular, dif_neg h]
  exact ⟨⟨rfl, rfl⟩, rfl, rfl⟩

theorem isRegular_regular (t : Time) : t.regular.IsRegular := by
  by_cases h : t.IsRegular
  · rwa [regular_of_isRegular h]
  · obtain ⟨-, -, hnanosecond⟩ := regular_of_not_isRegular h
    have hlt := t.nanosecond_lt
    left
    omega

theorem regular_eq_self_iff {t : Time} : t.regular = t ↔ t.IsRegular :=
  ⟨fun h => h ▸ t.isRegular_regular, regular_of_isRegular⟩

/-- A time that is not regular is a whole second off. -/
theorem second_regular_eq_iff {t : Time} : t.regular.second = t.second ↔ t.IsRegular := by
  by_cases h : t.IsRegular
  · rw [regular_of_isRegular h]
    simp [h]
  · rw [(regular_of_not_isRegular h).2.1]
    simp [h]

@[simp] theorem hour_regular (t : Time) : t.regular.hour = t.hour := by
  by_cases h : t.IsRegular
  · rw [regular_of_isRegular h]
  · exact (regular_of_not_isRegular h).1.1

@[simp] theorem minute_regular (t : Time) : t.regular.minute = t.minute := by
  by_cases h : t.IsRegular
  · rw [regular_of_isRegular h]
  · exact (regular_of_not_isRegular h).1.2

theorem shown_regular (t : Time) :
    t.regular.shownSecond = t.shownSecond ∧ t.regular.shownNanosecond = t.shownNanosecond := by
  by_cases h : t.IsRegular
  · rw [regular_of_isRegular h]
    exact ⟨rfl, rfl⟩
  · obtain ⟨-, hsecond, hnanosecond⟩ := regular_of_not_isRegular h
    have hlt := t.nanosecond_lt
    unfold IsRegular at h
    rw [shownSecond, shownSecond, shownNanosecond, shownNanosecond, hsecond, hnanosecond]
    omega

@[simp] theorem text_regular (f : Fraction) (t : Time) : t.regular.text f = t.text f := by
  obtain ⟨hsecond, hnanosecond⟩ := t.shown_regular
  cases f <;>
    simp only [text, fractionText, hour_regular, minute_regular, hsecond, hnanosecond]

theorem shownSecond_le (t : Time) : t.shownSecond ≤ 60 := by
  have hsecond := t.second_lt
  have hnanosecond := t.nanosecond_lt
  unfold shownSecond
  omega

/-- What a clock shows is read as the regular time. -/
theorem ofShown?_shown (t : Time) :
    ofShown? t.hour t.minute t.shownSecond t.shownNanosecond = some t.regular := by
  have hshown : t.hour < 24 ∧ t.minute < 60 ∧ t.shownSecond ≤ 60 ∧
      t.shownNanosecond < 1000000000 :=
    ⟨t.hour_lt, t.minute_lt, t.shownSecond_le, t.shownNanosecond_lt⟩
  have hregular := t.isRegular_regular
  have hsecond := t.regular.second_lt
  have hnanosecond := t.regular.nanosecond_lt
  obtain ⟨hshownSecond, hshownNanosecond⟩ := t.shown_regular
  have hsecondRead : min t.shownSecond 59 = t.regular.second := by
    rw [← hshownSecond]
    unfold IsRegular at hregular
    unfold shownSecond
    omega
  have hnanosecondRead : (if t.shownSecond = 60 then 1000000000 + t.shownNanosecond
      else t.shownNanosecond) = t.regular.nanosecond := by
    rw [← hshownSecond, ← hshownNanosecond]
    unfold IsRegular at hregular
    unfold shownSecond shownNanosecond
    split <;> omega
  rw [ofShown?, dif_pos hshown]
  simp only [hsecondRead, hnanosecondRead, ← t.hour_regular, ← t.minute_regular]

/-- Regular times are told apart by what a clock shows. -/
theorem eq_of_shown {t t' : Time} (h : t.IsRegular) (h' : t'.IsRegular) (hhour : t.hour = t'.hour)
    (hminute : t.minute = t'.minute) (hsecond : t.shownSecond = t'.shownSecond)
    (hnanosecond : t.shownNanosecond = t'.shownNanosecond) : t = t' := by
  have hshown := t.ofShown?_shown
  rw [hhour, hminute, hsecond, hnanosecond, ofShown?_shown, regular_of_isRegular h,
    regular_of_isRegular h'] at hshown
  exact (Option.some.inj hshown).symm

end Time

def DateTime.regular (m : DateTime) : DateTime := ⟨m.date, m.time.regular⟩

theorem DateTime.text_regular (separator : String) (f : Fraction) (m : DateTime) :
    m.regular.text separator f = m.text separator f := by
  simp [text, regular]

/-! ## Times without the part that is not written -/

/-- The part of a second, in nanoseconds, that a fraction tells apart. -/
def Fraction.unit : Fraction → Nat
  | asNeeded => 1
  | places count => Nat.pow 10 (9 - count)

/-- A second is a whole number of units. -/
theorem Fraction.unit_dvd (f : Fraction) : f.unit ∣ 1000000000 := by
  cases f with
  | asNeeded => exact Nat.one_dvd _
  | places count => exact Nat.pow_dvd_pow 10 (Nat.sub_le 9 count)

/-- A fraction that is written has one to nine digits. -/
def Fraction.Readable : Fraction → Prop
  | asNeeded => True
  | places count => 1 ≤ count ∧ count ≤ 9

/-- The time at the beginning of its unit of so many nanoseconds. -/
def Time.truncate (unit : Nat) (t : Time) : Time where
  hour := t.hour
  minute := t.minute
  second := t.second
  nanosecond := t.nanosecond / unit * unit
  hour_lt := t.hour_lt
  minute_lt := t.minute_lt
  second_lt := t.second_lt
  nanosecond_lt := Nat.lt_of_le_of_lt (Nat.div_mul_le_self _ _) t.nanosecond_lt

def DateTime.truncate (unit : Nat) (m : DateTime) : DateTime := ⟨m.date, m.time.truncate unit⟩

@[simp] theorem Time.truncate_one (t : Time) : t.truncate 1 = t := by
  simp [truncate]

@[simp] theorem DateTime.truncate_one (m : DateTime) : m.truncate 1 = m := by
  simp [truncate]

theorem Time.isRegular_truncate {t : Time} (h : t.IsRegular) (unit : Nat) :
    (t.truncate unit).IsRegular :=
  h.imp_left (Nat.lt_of_le_of_lt (Nat.div_mul_le_self _ _))

/-- Where seconds are whole numbers of units, only the fraction of the second is cut off. -/
theorem Time.shown_truncate {unit : Nat} (hunit : unit ∣ 1000000000) (t : Time) :
    (t.truncate unit).shownSecond = t.shownSecond ∧
      (t.truncate unit).shownNanosecond = t.shownNanosecond / unit * unit := by
  have hrest : t.nanosecond % 1000000000 % unit = t.nanosecond % unit :=
    Nat.mod_mod_of_dvd t.nanosecond hunit
  have hle : t.nanosecond % 1000000000 % unit ≤ t.nanosecond % 1000000000 := Nat.mod_le _ _
  simp only [shownSecond, shownNanosecond, truncate, Nat.div_mul_self_eq_mod_sub_self]
  omega

theorem Time.regular_truncate {unit : Nat} (hunit : unit ∣ 1000000000) (t : Time) :
    (t.truncate unit).regular = t.regular.truncate unit := by
  obtain ⟨hsecond, hnanosecond⟩ := t.shown_truncate hunit
  obtain ⟨hsecond', hnanosecond'⟩ := t.regular.shown_truncate hunit
  refine eq_of_shown (isRegular_regular _) (isRegular_truncate t.isRegular_regular unit)
    ?_ ?_ ?_ ?_
  · rw [hour_regular, truncate, truncate, hour_regular]
  · rw [minute_regular, truncate, truncate, minute_regular]
  · rw [(shown_regular _).1, hsecond, hsecond', t.shown_regular.1]
  · rw [(shown_regular _).2, hnanosecond, hnanosecond', t.shown_regular.2]

/-- What is not written has no part in the text. -/
theorem Time.text_truncate (f : Fraction) (t : Time) :
    (t.truncate f.unit).text f = t.text f := by
  obtain ⟨hsecond, hnanosecond⟩ := t.shown_truncate f.unit_dvd
  cases f with
  | asNeeded => rw [Fraction.unit, truncate_one]
  | places count =>
    have hpos : 0 < Nat.pow 10 (9 - count) := Nat.pow_pos (by decide)
    have hfraction : (t.truncate (Nat.pow 10 (9 - count))).shownNanosecond /
        Nat.pow 10 (9 - count) = t.shownNanosecond / Nat.pow 10 (9 - count) := by
      rw [show (t.truncate (Nat.pow 10 (9 - count))).shownNanosecond = _ from hnanosecond]
      exact Nat.mul_div_cancel _ hpos
    simp only [text, fractionText, fractionDigits, Fraction.unit] at hsecond ⊢
    rw [hsecond, hfraction]
    rfl

/-- The first digits of a fraction are worth the whole units in it. -/
theorem Time.digitsValue_fraction {count n : Nat} (hcount : count ≤ 9) (hn : n < 1000000000) :
    Text.digitsValue (Text.fixedDigits count (n / Nat.pow 10 (9 - count))) =
      n / Nat.pow 10 (9 - count) := by
  have hpow : Nat.pow 10 (9 - count) * Nat.pow 10 count = 1000000000 := by
    have hadd : Nat.pow 10 (9 - count + count) = Nat.pow 10 (9 - count) * Nat.pow 10 count :=
      Nat.pow_add 10 _ _
    rw [← hadd, Nat.sub_add_cancel hcount]
  have hfits : n / Nat.pow 10 (9 - count) < Nat.pow 10 count :=
    Nat.div_lt_of_lt_mul (by rw [hpow]; exact hn)
  rw [Text.digitsValue_fixedDigits, Nat.mod_eq_of_lt hfits]

/-! ## Months and days have two digits -/

theorem Date.month_lt (d : Date) : d.month < 100 := by
  have hmonth := d.month_mem
  omega

theorem Date.day_lt (d : Date) : d.day < 100 := by
  have hday := d.day_mem
  have hmax : daysInMonth d.year d.month ≤ 31 := by
    unfold daysInMonth
    split
    · split <;> decide
    all_goals decide
  omega

namespace Reader

/-! ## Digits -/

/-- The text does not begin with a digit. -/
def NoDigit (rest : List Char) : Prop := ∀ c, rest.head? = some c → c.isDigit = false

theorem isBlank_of_isDigit {c : Char} (h : c.isDigit = true) : Text.isBlank c = false := by
  simp only [Char.isDigit, Bool.and_eq_true, decide_eq_true_eq] at h
  have hlow : 48 ≤ c.toNat := UInt32.le_iff_toNat_le.mp h.1
  have hhigh : c.toNat ≤ 57 := UInt32.le_iff_toNat_le.mp h.2
  rw [Text.isBlank, List.any_eq_false]
  rintro ⟨first, last⟩ hrange
  have hall : ∀ r ∈ Text.blankRanges, r.2 < 48 ∨ 57 < r.1 := by decide
  have hapart : last < 48 ∨ 57 < first := hall _ hrange
  simp only [Bool.and_eq_true, decide_eq_true_eq]
  omega

theorem skipBlanks_cons {c : Char} (h : Text.isBlank c = false) (rest : List Char) :
    Text.skipBlanks (c :: rest) = c :: rest := by
  rw [Text.skipBlanks, List.dropWhile_cons, h]
  rfl

/-- Digits are split off where they end, or where no more of them are wanted. -/
theorem splitDigits_append {digits rest : List Char} {limit : Nat}
    (hdigits : ∀ c ∈ digits, c.isDigit = true) (hlimit : digits.length ≤ limit)
    (hrest : digits.length = limit ∨ NoDigit rest) :
    splitDigits limit (digits ++ rest) = (digits, rest) := by
  induction digits generalizing limit with
  | nil =>
    cases limit with
    | zero => simp [splitDigits]
    | succ limit =>
      cases rest with
      | nil => rfl
      | cons c rest =>
        have hc : c.isDigit = false := hrest.resolve_left (by simp) c rfl
        simp [splitDigits, hc]
  | cons c digits ih =>
    cases limit with
    | zero => simp at hlimit
    | succ limit =>
      have hlater : splitDigits limit (digits ++ rest) = (digits, rest) :=
        ih (fun d hd => hdigits d (by simp [hd])) (by simpa using hlimit)
          (hrest.imp_left (by simp))
      simp [splitDigits, hdigits c (by simp), hlater]

theorem number_append {digits rest : List Char} {limit : Nat} (hne : digits ≠ [])
    (hdigits : ∀ c ∈ digits, c.isDigit = true) (hlimit : digits.length ≤ limit)
    (hrest : digits.length = limit ∨ NoDigit rest) :
    number limit (digits ++ rest) = some (Text.digitsValue digits, rest) := by
  unfold number
  rw [splitDigits_append hdigits hlimit hrest]
  cases digits with
  | nil => exact absurd rfl hne
  | cons c digits => rfl

theorem number_paddedNumber {width n : Nat} (hwidth : 0 < width) (h : n < Nat.pow 10 width)
    (rest : List Char) :
    number width ((Text.paddedNumber width n).toList ++ rest) = some (n, rest) := by
  have hlength : (Text.paddedNumber width n).toList.length = width := Text.length_paddedNumber h
  rw [number_append (Text.toList_paddedNumber_ne_nil hwidth n)
    (fun _ => Text.isDigit_of_mem_paddedNumber) (Nat.le_of_eq hlength) (.inl hlength),
    Text.digitsValue_paddedNumber]

theorem exists_digit_cons {width : Nat} (hwidth : 0 < width) (n : Nat) :
    ∃ c cs, (Text.paddedNumber width n).toList = c :: cs ∧ c.isDigit = true := by
  cases h : (Text.paddedNumber width n).toList with
  | nil => exact absurd h (Text.toList_paddedNumber_ne_nil hwidth n)
  | cons c cs =>
    exact ⟨c, cs, rfl, Text.isDigit_of_mem_paddedNumber (by rw [h]; exact List.mem_cons_self)⟩

theorem shortNumber_append {n : Nat} (h : n < 100) (rest : List Char) :
    shortNumber ((Text.paddedNumber 2 n).toList ++ rest) = some (n, rest) := by
  have hread := number_paddedNumber (by decide : 0 < 2) h rest
  obtain ⟨c, cs, htext, hc⟩ := exists_digit_cons (by decide : 0 < 2) n
  rw [htext, List.cons_append] at hread ⊢
  rw [shortNumber, skipBlanks_cons (isBlank_of_isDigit hc), hread]

theorem separator_cons {c : Char} (h : Text.isBlank c = false) (rest : List Char) :
    separator c (c :: rest) = some ((), rest) := by
  rw [separator, skipBlanks_cons h]
  exact if_pos rfl

/-! ## Dates -/

theorem year_minus (rest : List Char) :
    year ('-' :: rest) =
      (number rest.length rest).map fun (n, after) => (-(n : Int), after) := by
  unfold year
  rw [skipBlanks_cons (by decide)]
  rfl

theorem year_plus (rest : List Char) :
    year ('+' :: rest) = (number rest.length rest).map fun (n, after) => ((n : Int), after) := by
  unfold year
  rw [skipBlanks_cons (by decide)]
  rfl

theorem year_digit {c : Char} (hc : c.isDigit = true) (rest : List Char) :
    year (c :: rest) = (number 4 (c :: rest)).map fun (n, after) => ((n : Int), after) := by
  unfold year
  rw [skipBlanks_cons (isBlank_of_isDigit hc)]
  split
  · next heq =>
    rw [(List.cons.inj heq).1] at hc
    exact absurd hc (by decide)
  · next heq =>
    rw [(List.cons.inj heq).1] at hc
    exact absurd hc (by decide)
  · rfl

theorem year_append (y : Int) {rest : List Char} (hrest : NoDigit rest) :
    year ((Date.yearText y).toList ++ rest) = some (y, rest) := by
  have hsigned : number ((Text.paddedNumber 4 y.natAbs).toList ++ rest).length
      ((Text.paddedNumber 4 y.natAbs).toList ++ rest) = some (y.natAbs, rest) := by
    rw [number_append (Text.toList_paddedNumber_ne_nil (by decide) _)
      (fun _ => Text.isDigit_of_mem_paddedNumber) (by simp) (.inr hrest),
      Text.digitsValue_paddedNumber]
  -- A sign takes any number of digits, so a signed year ends where the digits end; without one
  -- exactly four digits are read, and there are four.
  rw [Date.yearText]
  split
  · next hneg =>
    have hyear : -(y.natAbs : Int) = y := by omega
    have htext : ("-" ++ Text.paddedNumber 4 y.natAbs).toList ++ rest =
        '-' :: ((Text.paddedNumber 4 y.natAbs).toList ++ rest) := by simp
    rw [htext, year_minus, hsigned]
    exact congrArg (fun z => some (z, rest)) hyear
  · next hpos =>
    have hyear : (y.natAbs : Int) = y := by omega
    split
    · have htext : ("+" ++ Text.paddedNumber 4 y.natAbs).toList ++ rest =
          '+' :: ((Text.paddedNumber 4 y.natAbs).toList ++ rest) := by simp
      rw [htext, year_plus, hsigned]
      exact congrArg (fun z => some (z, rest)) hyear
    · next hshort =>
      have hfits : y.natAbs < 10000 := by omega
      have hread := number_paddedNumber (by decide : 0 < 4) hfits rest
      obtain ⟨c, cs, htext, hc⟩ := exists_digit_cons (by decide : 0 < 4) y.natAbs
      rw [htext, List.cons_append] at hread ⊢
      rw [year_digit hc, hread]
      exact congrArg (fun z => some (z, rest)) hyear

theorem date_iso (d : Date) (rest : List Char) : date (d.iso.toList ++ rest) = some (d, rest) := by
  have hyphen : NoDigit ('-' :: ((Text.paddedNumber 2 d.month).toList ++
      '-' :: ((Text.paddedNumber 2 d.day).toList ++ rest))) := by
    intro c hc
    rw [← Option.some.inj hc]
    decide
  have htext : d.iso.toList ++ rest = (Date.yearText d.year).toList ++
      '-' :: ((Text.paddedNumber 2 d.month).toList ++
        '-' :: ((Text.paddedNumber 2 d.day).toList ++ rest)) := by
    simp [Date.iso, Date.text]
  rw [htext]
  simp only [date, year_append _ hyphen, separator_cons (by decide : Text.isBlank '-' = false),
    shortNumber_append d.month_lt, shortNumber_append d.day_lt, Date.ofFields?_self,
    Option.bind_eq_bind, Option.bind_some, Option.pure_def]

/-! ## Times -/

theorem dropWhile_isDigit {rest : List Char} (hrest : NoDigit rest) :
    rest.dropWhile Char.isDigit = rest := by
  cases rest with
  | nil => rfl
  | cons c rest => simp [hrest c rfl]

theorem fraction_append {digits rest : List Char} (hne : digits ≠ [])
    (hdigits : ∀ c ∈ digits, c.isDigit = true) (hlength : digits.length ≤ 9)
    (hrest : NoDigit rest) :
    fraction ('.' :: (digits ++ rest)) =
      some (Text.digitsValue digits * Nat.pow 10 (9 - digits.length), rest) := by
  unfold fraction
  simp only
  rw [splitDigits_append hdigits hlength (.inr hrest)]
  cases digits with
  | nil => exact absurd rfl hne
  | cons c digits => simp only [dropWhile_isDigit hrest]

theorem fraction_fractionDigits {count n : Nat} (hcount : 1 ≤ count ∧ count ≤ 9)
    (hn : n < 1000000000) {rest : List Char} (hrest : NoDigit rest) :
    fraction ((Time.fractionDigits count n).toList ++ rest) =
      some (n / Nat.pow 10 (9 - count) * Nat.pow 10 (9 - count), rest) := by
  have hlength := Text.length_fixedDigits count (n / Nat.pow 10 (9 - count))
  have htext : (Time.fractionDigits count n).toList ++ rest =
      '.' :: (Text.fixedDigits count (n / Nat.pow 10 (9 - count)) ++ rest) := by
    simp [Time.fractionDigits]
  rw [htext, fraction_append (List.ne_nil_of_length_pos (by rw [hlength]; exact hcount.1))
    (fun _ => Text.isDigit_of_mem_fixedDigits) (by rw [hlength]; exact hcount.2) hrest, hlength,
    Time.digitsValue_fraction hcount.2 hn]

theorem fraction_fractionText (t : Time) {f : Fraction} (hf : f.Readable) {rest : List Char}
    (hrest : NoDigit rest) (hpoint : rest.head? ≠ some '.') :
    fraction ((t.fractionText f).toList ++ rest) =
      some (t.shownNanosecond / f.unit * f.unit, rest) := by
  cases f with
  | places count => exact fraction_fractionDigits hf t.shownNanosecond_lt hrest
  | asNeeded =>
    have hread : ∀ count, 1 ≤ count ∧ count ≤ 9 →
        fraction ((Time.fractionDigits count t.shownNanosecond).toList ++ rest) =
          some (t.shownNanosecond / Nat.pow 10 (9 - count) * Nat.pow 10 (9 - count), rest) :=
      fun _ hcount => fraction_fractionDigits hcount t.shownNanosecond_lt hrest
    rw [Time.fractionText, Fraction.unit, Nat.div_one, Nat.mul_one]
    split
    · next hzero =>
      -- Nothing is written, so the reader must not take what follows for a fraction.
      rw [hzero, String.toList_empty, List.nil_append]
      cases rest with
      | nil => rfl
      | cons c rest =>
        unfold fraction
        split
        · next heq => exact absurd (congrArg List.head? heq) hpoint
        · rfl
    · split
      · next hmilli =>
        rw [hread 3 ⟨by decide, by decide⟩, Nat.div_mul_cancel (Nat.dvd_of_mod_eq_zero hmilli)]
      · split
        · next hmicro =>
          rw [hread 6 ⟨by decide, by decide⟩, Nat.div_mul_cancel (Nat.dvd_of_mod_eq_zero hmicro)]
        · rw [hread 9 ⟨by decide, by decide⟩, Nat.div_mul_cancel (Nat.one_dvd _)]

/-- A written time is read back as the regular one, without the part that is not written. -/
theorem time_text (t : Time) {f : Fraction} (hf : f.Readable) {rest : List Char}
    (hrest : NoDigit rest) (hpoint : rest.head? ≠ some '.') :
    time ((t.text f).toList ++ rest) = some (t.regular.truncate f.unit, rest) := by
  have hhour : t.hour < 100 := Nat.lt_trans t.hour_lt (by decide)
  have hminute : t.minute < 100 := Nat.lt_trans t.minute_lt (by decide)
  have hsecond : t.shownSecond < 100 := Nat.lt_of_le_of_lt t.shownSecond_le (by decide)
  have hshown : Time.ofShown? t.hour t.minute t.shownSecond
      (t.shownNanosecond / f.unit * f.unit) = some (t.regular.truncate f.unit) := by
    obtain ⟨hcutSecond, hcutNanosecond⟩ := t.shown_truncate f.unit_dvd
    rw [← Time.regular_truncate f.unit_dvd, ← hcutSecond, ← hcutNanosecond]
    exact (t.truncate f.unit).ofShown?_shown
  have htext : (t.text f).toList ++ rest = (Text.paddedNumber 2 t.hour).toList ++
      ':' :: ((Text.paddedNumber 2 t.minute).toList ++
        ':' :: ((Text.paddedNumber 2 t.shownSecond).toList ++
          ((t.fractionText f).toList ++ rest))) := by
    simp [Time.text]
  rw [htext]
  simp only [time, hourMinute, secondFraction, shortNumber_append hhour,
    shortNumber_append hminute, shortNumber_append hsecond,
    separator_cons (by decide : Text.isBlank ':' = false), fraction_fractionText t hf hrest hpoint,
    hshown, Option.bind_eq_bind, Option.bind_some, Option.pure_def]

end Reader

/-- A written moment is read back as the regular one, without the part that is not written. -/
theorem DateTime.ofText?_text (m : DateTime) {f : Fraction} (hf : f.Readable) :
    ofText? (m.text "T" f) = some (m.regular.truncate f.unit) := by
  have htext : (m.text "T" f).toList =
      m.date.iso.toList ++ 'T' :: ((m.time.text f).toList ++ []) := by
    simp [text]
  have htime : Reader.time ((m.time.text f).toList ++ []) =
      some (m.time.regular.truncate f.unit, []) :=
    Reader.time_text m.time hf (by simp [Reader.NoDigit]) (by simp)
  simp only [ofText?, Reader.whole?, htext, Reader.date_iso,
    Reader.separator_cons (by decide : Text.isBlank 'T' = false), htime, Option.bind_eq_bind,
    Option.bind_some, Option.pure_def]
  rfl

/-! ## Texts tell values apart -/

theorem Date.iso_inj {d d' : Date} : d.iso = d'.iso ↔ d = d' := by
  constructor
  · intro h
    have hread := Reader.date_iso d []
    rw [h, Reader.date_iso d' []] at hread
    exact (Prod.mk.inj (Option.some.inj hread)).1.symm
  · rintro rfl
    rfl

/-- Month and day are the last four digits, and the year is what stands before them. -/
theorem Date.compact_inj {d d' : Date} : d.compact = d'.compact ↔ d = d' := by
  constructor
  · intro h
    have htwo : ∀ n n' : Nat, n < 100 → n' < 100 →
        (Text.paddedNumber 2 n).toList.length = (Text.paddedNumber 2 n').toList.length :=
      fun n n' hn hn' => (Text.length_paddedNumber hn).trans (Text.length_paddedNumber hn').symm
    have hlists := congrArg String.toList h
    simp only [compact, text, String.toList_append, String.toList_empty, List.append_nil] at hlists
    obtain ⟨hrest, hday⟩ := List.append_inj' hlists (htwo _ _ d.day_lt d'.day_lt)
    obtain ⟨hyear, hmonth⟩ := List.append_inj' hrest (htwo _ _ d.month_lt d'.month_lt)
    rw [← iso_inj, iso, iso, text, text, String.toList_inj.mp hyear, String.toList_inj.mp hmonth,
      String.toList_inj.mp hday]
  · rintro rfl
    rfl

/-- Written times are equal where the times differ in nothing that is written. -/
theorem Time.text_inj {f : Fraction} (hf : f.Readable) {t t' : Time} :
    t.text f = t'.text f ↔ t.regular.truncate f.unit = t'.regular.truncate f.unit := by
  constructor
  · intro h
    have hread : ∀ t : Time,
        Reader.time ((t.text f).toList ++ []) = some (t.regular.truncate f.unit, []) :=
      fun t => Reader.time_text t hf (by simp [Reader.NoDigit]) (by simp)
    have hsame := hread t
    rw [h, hread t'] at hsame
    exact (Prod.mk.inj (Option.some.inj hsame)).1.symm
  · intro h
    rw [← text_regular f t, ← text_truncate f t.regular, h, text_truncate, text_regular]

theorem DateTime.text_inj (separator : String) {f : Fraction} (hf : f.Readable)
    {m m' : DateTime} :
    m.text separator f = m'.text separator f ↔
      m.regular.truncate f.unit = m'.regular.truncate f.unit := by
  simp only [truncate, regular, DateTime.mk.injEq]
  rw [← Time.text_inj hf]
  constructor
  · intro h
    have hlists := congrArg String.toList h
    simp only [text, String.toList_append, List.append_assoc] at hlists
    have hread := Reader.date_iso m.date (separator.toList ++ (m.time.text f).toList)
    rw [hlists, Reader.date_iso] at hread
    obtain ⟨hdate, hrest⟩ := Prod.mk.inj (Option.some.inj hread)
    exact ⟨hdate.symm, (String.toList_inj.mp (List.append_cancel_left hrest)).symm⟩
  · rintro ⟨hdate, htime⟩
    rw [text, text, hdate, htime]

end SchemaDdl.Calendar
