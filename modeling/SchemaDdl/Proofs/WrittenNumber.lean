import SchemaDdl.Text.Digits

/-!
# Numbers in digits

What is written in digits is read back from them: numbers of a fixed or of a minimal width by
`digitsValue_fixedDigits` and `digitsValue_paddedNumber`, and bytes because their hexadecimal digits
differ where they do.
-/

namespace SchemaDdl.Text

/-! ## Decimal digits -/

theorem isDigit_digitChar (n : Nat) : (digitChar n).isDigit = true := by
  have h : ∀ k < 10, (Char.ofNat (48 + k)).isDigit = true := by decide
  exact h (n % 10) (Nat.mod_lt n (by decide))

theorem digitValue_digitChar (n : Nat) : digitValue (digitChar n) = n % 10 := by
  have h : ∀ k < 10, digitValue (Char.ofNat (48 + k)) = k := by decide
  exact h (n % 10) (Nat.mod_lt n (by decide))

theorem digitValue_lt {c : Char} (h : c.isDigit = true) : digitValue c < 10 := by
  have hnine : c.toNat ≤ '9'.toNat := (Char.isDigit_iff_toNat.mp h).2
  have hvalue : '9'.toNat = 57 := rfl
  unfold digitValue
  omega

theorem digitsValue_concat (cs : List Char) (c : Char) :
    digitsValue (cs ++ [c]) = 10 * digitsValue cs + digitValue c := by
  simp [digitsValue]

theorem isDigit_of_mem_fixedDigits {width n : Nat} {c : Char} (h : c ∈ fixedDigits width n) :
    c.isDigit = true := by
  induction width generalizing n with
  | zero => simp [fixedDigits] at h
  | succ width ih =>
    rcases List.mem_append.mp h with h | h
    · exact ih h
    · rw [List.mem_singleton.mp h]
      exact isDigit_digitChar n

/-- The last digits of a number are worth what is left of it beyond them. -/
theorem digitsValue_fixedDigits (width n : Nat) :
    digitsValue (fixedDigits width n) = n % Nat.pow 10 width := by
  induction width generalizing n with
  | zero => exact (Nat.mod_one n).symm
  | succ width ih =>
    have hsplit : n % (10 * Nat.pow 10 width) = n % 10 + 10 * (n / 10 % Nat.pow 10 width) :=
      Nat.mod_mul
    have hpow : Nat.pow 10 (width + 1) = 10 * Nat.pow 10 width := Nat.mul_comm _ _
    rw [fixedDigits, digitsValue_concat, ih, digitValue_digitChar, hpow, hsplit]
    omega

theorem digitsValue_toDigits (n : Nat) : digitsValue (Nat.toDigits 10 n) = n :=
  Nat.ofDigitChars_toDigits (by decide) (by decide)

theorem isDigit_of_mem_paddedNumber {width n : Nat} {c : Char}
    (h : c ∈ (paddedNumber width n).toList) : c.isDigit = true := by
  rw [paddedNumber, String.toList_ofList] at h
  split at h
  · exact isDigit_of_mem_fixedDigits h
  · exact Nat.isDigit_of_mem_toDigits (by decide) (by decide) h

theorem digitsValue_paddedNumber (width n : Nat) :
    digitsValue (paddedNumber width n).toList = n := by
  rw [paddedNumber, String.toList_ofList]
  split
  · next hfits => rw [digitsValue_fixedDigits, Nat.mod_eq_of_lt hfits]
  · exact digitsValue_toDigits n

theorem length_paddedNumber {width n : Nat} (h : n < Nat.pow 10 width) :
    (paddedNumber width n).toList.length = width := by
  rw [paddedNumber, if_pos h, String.toList_ofList, length_fixedDigits]

theorem toList_paddedNumber_ne_nil {width : Nat} (hwidth : 0 < width) (n : Nat) :
    (paddedNumber width n).toList ≠ [] := by
  rw [paddedNumber, String.toList_ofList]
  split
  · apply List.ne_nil_of_length_pos
    rw [length_fixedDigits]
    exact hwidth
  · exact Nat.toDigits_ne_nil

/-! ## Hexadecimal digits -/

theorem hexDigit_inj {i j : Nat} (hi : i < 16) (hj : j < 16)
    (h : hexDigit 'A' i = hexDigit 'A' j) : i = j := by
  have hall : ∀ i < 16, ∀ j < 16, hexDigit 'A' i = hexDigit 'A' j → i = j := by decide
  exact hall i hi j hj h

theorem hexDigits_inj {bytes bytes' : List UInt8} (h : hexDigits 'A' bytes = hexDigits 'A' bytes') :
    bytes = bytes' := by
  induction bytes generalizing bytes' with
  | nil =>
    cases bytes' with
    | nil => rfl
    | cons b' rest' => simp [hexDigits] at h
  | cons b rest ih =>
    cases bytes' with
    | nil => simp [hexDigits] at h
    | cons b' rest' =>
      simp only [hexDigits, List.flatMap_cons, List.cons_append, List.nil_append,
        List.cons.injEq] at h
      obtain ⟨hhigh, hlow, hrest⟩ := h
      have hb : b.toNat < 256 := b.toNat_lt
      have hb' : b'.toNat < 256 := b'.toNat_lt
      have hdiv : b.toNat / 16 = b'.toNat / 16 := hexDigit_inj (by omega) (by omega) hhigh
      have hmod : b.toNat % 16 = b'.toNat % 16 := hexDigit_inj (by omega) (by omega) hlow
      rw [UInt8.toNat_inj.mp (by omega : b.toNat = b'.toNat), ih hrest]

theorem hexUpper_inj {bytes bytes' : List UInt8} :
    hexUpper bytes = hexUpper bytes' ↔ bytes = bytes' := by
  constructor
  · exact fun h => hexDigits_inj (String.ofList_injective h)
  · rintro rfl
    rfl

end SchemaDdl.Text
