import SchemaDdl.Calendar.DateTime
import SchemaDdl.Dialect.Clause
import SchemaDdl.Proofs.Lexical.Alike

/-!
# Numbers, dates and times outside quotes

The values that dialects write without quotes hold no delimiter, no semicolon, no slash and no two
dashes in a row: not the year before the year 0, not a negative number of either sort, not bytes.
-/

namespace SchemaDdl.Lexical

open Text (Quote)

/-! ## Digits -/

theorem plain_of_isDigit {c : Char} (h : c.isDigit = true) : Plain c := by
  refine ⟨fun hmem => ?_, ?_⟩
  · simp only [List.mem_cons, List.not_mem_nil, or_false] at hmem
    rcases hmem with rfl | rfl | rfl | rfl | rfl | rfl <;> exact absurd h (by decide)
  · rintro rfl
    exact absurd h (by decide)

theorem plain_toDigits {n : Nat} : ∀ c ∈ Nat.toDigits 10 n, Plain c := by
  intro c hc
  exact plain_of_isDigit (Nat.isDigit_of_mem_toDigits (by decide) (by decide) hc)

theorem plain_digitChar (n : Nat) : Plain (Text.digitChar n) := by
  have h : ∀ k < 10, Plain (Char.ofNat (48 + k)) := by decide
  exact h (n % 10) (Nat.mod_lt n (by decide))

theorem plain_fixedDigits (width n : Nat) : ∀ c ∈ Text.fixedDigits width n, Plain c := by
  induction width generalizing n with
  | zero => simp [Text.fixedDigits]
  | succ width ih =>
    intro c hc
    rcases List.mem_append.mp hc with hc | hc
    · exact ih (n / 10) c hc
    · rw [List.mem_singleton.mp hc]
      exact plain_digitChar n

theorem plain_hexUpper (bytes : List UInt8) : ∀ c ∈ (Text.hexUpper bytes).toList, Plain c := by
  have h : ∀ k < 16, Plain (Text.hexDigit 'A' k) := by decide
  intro c hc
  simp only [Text.hexUpper, Text.hexDigits, String.toList_ofList, List.mem_flatMap,
    List.mem_cons, List.not_mem_nil, or_false] at hc
  obtain ⟨b, _, rfl | rfl⟩ := hc
  · have hb : b.toNat < 256 := b.toNat_lt
    exact h _ (by omega)
  · exact h _ (Nat.mod_lt _ (by decide))

namespace Word

theorem append_plain {s r : String} (hs : Word s) (hr : ∀ c ∈ r.toList, Plain c) :
    Word (s ++ r) where
  ne_nil := by simp [hs.ne_nil]
  plain := by
    intro c hc
    rcases List.mem_append.mp (String.toList_append ▸ hc) with hc | hc
    · exact hs.plain c hc
    · exact hr c hc

theorem repr (n : Nat) : Word n.repr where
  ne_nil := by simp [Nat.toList_repr, Nat.toDigits_ne_nil]
  plain := by
    rw [Nat.toList_repr]
    exact plain_toDigits

theorem paddedNumber {width : Nat} (hw : 0 < width) (n : Nat) :
    Word (Text.paddedNumber width n) := by
  unfold Text.paddedNumber
  split
  · constructor
    · intro hnil
      have hlen := Text.length_fixedDigits width n
      rw [String.toList_ofList] at hnil
      rw [hnil, List.length_nil] at hlen
      omega
    · rw [String.toList_ofList]
      exact plain_fixedDigits width n
  · constructor
    · rw [String.toList_ofList]
      exact Nat.toDigits_ne_nil
    · rw [String.toList_ofList]
      exact plain_toDigits

end Word

/-! ## Texts without quotes -/

/-- A text that stands outside quotes as it is. -/
def Unquoted (s : String) : Prop := ∀ names, Tidy names (bareTokens s)

namespace Unquoted

variable {s r k : String}

theorem nil : Unquoted "" := fun _ => Written.nil.tidy

theorem dash : Unquoted "-" := fun _ => Written.dash.tidy

theorem word (hk : Word k) : Unquoted k := fun _ => tidy_bareTokens hk

theorem glue (h : Unquoted s) (hk : Word k) (h' : Unquoted r) : Unquoted (s ++ k ++ r) := by
  intro names
  simpa [bareTokens] using (h names).glue hk (h' names)

theorem snoc (h : Unquoted s) (hk : Word k) : Unquoted (s ++ k) := by
  simpa using h.glue hk nil

theorem alike {names : Quote} {P P' : String → Prop} (h : Unquoted s) :
    Alike names P P' s s := by
  have hw : Written names (bareTokens s) s := ⟨(source_bareTokens s).symm, h names⟩
  exact ⟨_, _, hw, hw, rfl, .bareTokens s, .bareTokens s⟩

/-- Between single quotes such a text is a string as it is. -/
theorem stringLiteral_eq (h : Unquoted s) : Text.stringLiteral s = "'" ++ s ++ "'" := by
  have hescape : ∀ cs : List Char, (∀ c ∈ cs, c ≠ '\'') → Quote.single.escape cs = cs := by
    intro cs hcs
    induction cs with
    | nil => rfl
    | cons c rest ih =>
      have hc : c ≠ Quote.single.closing := hcs c (by simp)
      rw [Quote.escape, if_neg hc, ih fun d hd => hcs d (by simp [hd])]
  have hcalm : ∀ c ∈ s.toList, c ≠ '\'' := by
    intro c hc
    have hcalm : Calm c := (h .single).calm (.bare c) (List.mem_map_of_mem hc)
    simp only [Calm, List.mem_cons, not_or] at hcalm
    exact hcalm.1
  apply String.toList_injective
  rw [Text.stringLiteral, Quote.toList_encode, hescape _ hcalm]
  simp [Quote.single]

theorem plain (h : ∀ c ∈ s.toList, Plain c) : Unquoted s := by
  by_cases hs : s = ""
  · rw [hs]
    exact nil
  · exact word ⟨by simpa using hs, h⟩

theorem alike_quoted {names : Quote} {P P' : String → Prop} (h : Unquoted s)
    (hn : names = .double ∨ names = .bracket) :
    Alike names P P' ("'" ++ s ++ "'") ("'" ++ s ++ "'") := by
  rw [← h.stringLiteral_eq]
  exact .string hn s s

/-- Such a text between single quotes, with a word before it. -/
theorem alike_between {names : Quote} {P P' : String → Prop} (h : Unquoted s)
    (hn : names = .double ∨ names = .bracket) (hk : Word k) :
    Alike names P P' (k ++ "'" ++ s ++ "'") (k ++ "'" ++ s ++ "'") := by
  have hs : Alike names P P' (k ++ ("'" ++ s ++ "'")) (k ++ ("'" ++ s ++ "'")) :=
    (h.alike_quoted hn).cons hk
  simpa only [String.append_assoc] using hs

end Unquoted

/-! ## Numbers -/

theorem unquoted_int (n : Int) : Unquoted (toString n) := by
  cases n with
  | ofNat m => exact .word (.repr m)
  | negSucc m => exact Unquoted.dash.snoc (.repr (m + 1))

theorem word_ofList {cs : List Char} (hne : cs ≠ []) (h : ∀ c ∈ cs, Plain c) :
    Word (String.ofList cs) :=
  ⟨by simpa using hne, by simpa using h⟩

theorem unquoted_signed (x : Decimal) {cs : List Char} (hne : cs ≠ [])
    (h : ∀ c ∈ cs, Plain c) : Unquoted (x.signed cs) := by
  unfold Decimal.signed
  split
  · have hsplit : String.ofList ('-' :: cs) = "-" ++ String.ofList cs := by
      apply String.toList_injective
      simp
    rw [hsplit]
    exact Unquoted.dash.snoc (word_ofList hne h)
  · exact .word (word_ofList hne h)

theorem plain_placePoint {digits : List Char} (h : ∀ c ∈ digits, Plain c) (point : Int) :
    ∀ c ∈ Decimal.placePoint digits point, Plain c := by
  have hpoint : Plain '.' := by decide
  have hzero : Plain '0' := by decide
  intro c hc
  unfold Decimal.placePoint at hc
  split at hc
  · rcases List.mem_append.mp hc with hc | hc
    · exact h c (List.mem_of_mem_take hc)
    · rcases List.mem_cons.mp hc with rfl | hc
      · exact hpoint
      · exact h c (List.mem_of_mem_drop hc)
  · rcases List.mem_cons.mp hc with rfl | hc
    · exact hzero
    · rcases List.mem_cons.mp hc with rfl | hc
      · exact hpoint
      · rcases List.mem_append.mp hc with hc | hc
        · rw [List.eq_of_mem_replicate hc]
          exact hzero
        · exact h c hc

theorem unquoted_positional (x : Decimal) : Unquoted x.positional := by
  have hplain : ∀ c ∈ x.digitChars, Plain c := plain_toDigits
  have hne : x.digitChars ≠ [] := Nat.toDigits_ne_nil
  unfold Decimal.positional
  split
  · apply unquoted_signed
    · simp [hne]
    · intro c hc
      rcases List.mem_append.mp hc with hc | hc
      · exact hplain c hc
      · rw [List.eq_of_mem_replicate hc]
        decide
  · apply unquoted_signed
    · unfold Decimal.placePoint
      split <;> simp
    · exact plain_placePoint hplain _

/-! ## Dates and times -/

/-- A year is a sign, which may be a dash, and digits behind it. -/
theorem exists_yearText (year : Int) : ∃ sign digits,
    Calendar.Date.yearText year = sign ++ digits ∧ Unquoted sign ∧ Word digits := by
  have hdigits : Word (Text.paddedNumber 4 year.natAbs) := .paddedNumber (by decide) _
  unfold Calendar.Date.yearText
  simp only
  split
  · exact ⟨"-", _, rfl, .dash, hdigits⟩
  · split
    · exact ⟨"+", _, rfl, .word (by decide), hdigits⟩
    · exact ⟨"", _, String.empty_append.symm, .nil, hdigits⟩

theorem unquoted_iso (d : Calendar.Date) : Unquoted d.iso := by
  obtain ⟨sign, digits, hyear, hsign, hdigits⟩ := exists_yearText d.year
  unfold Calendar.Date.iso Calendar.Date.text
  rw [hyear]
  have hyear := hsign.glue hdigits .dash
  have hmonth := hyear.glue (.paddedNumber Nat.two_pos d.month) .dash
  exact hmonth.snoc (.paddedNumber Nat.two_pos d.day)

theorem unquoted_compact (d : Calendar.Date) : Unquoted d.compact := by
  obtain ⟨sign, digits, hyear, hsign, hdigits⟩ := exists_yearText d.year
  unfold Calendar.Date.compact Calendar.Date.text
  rw [hyear, String.append_empty, String.append_empty]
  have hmonth := (hsign.snoc hdigits).snoc (.paddedNumber Nat.two_pos d.month)
  exact hmonth.snoc (.paddedNumber Nat.two_pos d.day)

theorem plain_fractionDigits (count nanosecond : Nat) :
    ∀ c ∈ (Calendar.Time.fractionDigits count nanosecond).toList, Plain c := by
  have hpoint : Plain '.' := by decide
  intro c hc
  simp only [Calendar.Time.fractionDigits, String.toList_append, String.toList_ofList] at hc
  rcases List.mem_append.mp hc with hc | hc
  · rw [List.mem_singleton.mp hc]
    exact hpoint
  · exact plain_fixedDigits _ _ c hc

theorem plain_fractionText (t : Calendar.Time) (fraction : Calendar.Fraction) :
    ∀ c ∈ (t.fractionText fraction).toList, Plain c := by
  cases fraction with
  | places count => exact plain_fractionDigits count t.shownNanosecond
  | asNeeded =>
    unfold Calendar.Time.fractionText
    simp only
    split_ifs
    · simp
    · exact plain_fractionDigits 3 t.shownNanosecond
    · exact plain_fractionDigits 6 t.shownNanosecond
    · exact plain_fractionDigits 9 t.shownNanosecond

theorem word_time (t : Calendar.Time) (fraction : Calendar.Fraction) : Word (t.text fraction) := by
  have hcolon : Word ":" := by decide
  have htwo : ∀ n, Word (Text.paddedNumber 2 n) := fun n => .paddedNumber Nat.two_pos n
  have hminute := ((htwo t.hour).append hcolon).append (htwo t.minute)
  have hsecond := (hminute.append hcolon).append (htwo t.shownSecond)
  exact hsecond.append_plain (plain_fractionText t fraction)

theorem unquoted_dateTime (m : Calendar.DateTime) {k : String} (hk : Word k)
    (fraction : Calendar.Fraction) : Unquoted (m.text k fraction) :=
  ((unquoted_iso m.date).snoc hk).snoc (word_time m.time fraction)

end SchemaDdl.Lexical
