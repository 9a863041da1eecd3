import SchemaDdl.Dialect.Vocabulary
import SchemaDdl.Proofs.Utf8

/-!
# The length of derived names

A derived name is written in one of three ways: whole, as digits of its digest alone, or as a prefix
with the digest behind it. `text_cases` says which of them a limit leads to and how long the name
is, that it never exceeds the limit, and that no step on the way to it fails.
-/

namespace SchemaDdl

/-! ## Digits of the digest -/

theorem Text.utf8Size_of_mem_lowerHex {c : Char} (h : c ∈ "0123456789abcdef".toList) :
    c.utf8Size = 1 := by
  have hdigits : ("0123456789abcdef".toList.all fun c => c.utf8Size == 1) = true := rfl
  exact eq_of_beq (List.all_eq_true.mp hdigits c h)

theorem Text.mem_lowerHex_of_mem_hexDigits {bytes : List UInt8} {c : Char}
    (h : c ∈ hexDigits 'a' bytes) : c ∈ "0123456789abcdef".toList := by
  have hdigit : ∀ k < 16, hexDigit 'a' k ∈ "0123456789abcdef".toList := by decide
  simp only [hexDigits, List.mem_flatMap, List.mem_cons, List.not_mem_nil, or_false] at h
  obtain ⟨b, -, rfl | rfl⟩ := h
  · have hb : b.toNat < 256 := b.toNat_lt
    exact hdigit _ (by omega)
  · exact hdigit _ (Nat.mod_lt _ (by decide))

theorem intercalate_cons {α : Type} (separator first : List α) (rest : List (List α)) :
    separator.intercalate (first :: rest) = first ++ rest.flatMap (separator ++ ·) := by
  induction rest generalizing first with
  | nil => simp
  | cons second rest ih =>
    rw [List.intercalate_cons_cons, ih, List.flatMap_cons]
    simp only [List.append_assoc]

namespace ObjectName

variable {n : ObjectName} {max : Nat}

/-! ## Composition -/

theorem composed_eq (n : ObjectName) :
    n.composed = n.kind.tag ++ "_" ++ n.table ++ String.join (n.columns.map ("_" ++ ·)) := by
  apply String.toList_injective
  simp [composed, parts, intercalate_cons, List.flatMap_map, String.toList_join]

theorem partBytes_eq (n : ObjectName) :
    n.partBytes = Text.utf8 n.kind.tag ++ 0 :: Text.utf8 n.table ++
      n.columns.flatMap fun column => 0 :: Text.utf8 column := by
  simp [partBytes, parts, intercalate_cons, List.flatMap_map]

theorem length_digest (n : ObjectName) : n.digest.length = digestLength := by
  rw [digest, List.length_take, Text.length_hexDigits, Digest.length_sha256]
  rfl

theorem mem_lowerHex_of_mem_digest {c : Char} (h : c ∈ n.digest) :
    c ∈ "0123456789abcdef".toList :=
  Text.mem_lowerHex_of_mem_hexDigits (List.mem_of_mem_take h)

/-- A digit takes one byte. -/
theorem utf8Size_of_mem_digest {c : Char} (h : c ∈ n.digest) : c.utf8Size = 1 :=
  Text.utf8Size_of_mem_lowerHex (mem_lowerHex_of_mem_digest h)

theorem byteSize_take_digest (n : ObjectName) (count : Nat) :
    Text.byteSize (n.digest.take count) = min count digestLength := by
  rw [Text.byteSize_eq_length fun c hc => utf8Size_of_mem_digest (List.mem_of_mem_take hc),
    List.length_take, length_digest]

theorem byteSize_digest (n : ObjectName) : Text.byteSize n.digest = digestLength := by
  have htake := byteSize_take_digest n digestLength
  rw [List.take_of_length_le (Nat.le_of_eq (length_digest n)), Nat.min_self] at htake
  exact htake

/-! ## The three ways -/

theorem text_of_fits (h : n.composed.utf8ByteSize ≤ max) : n.text max = n.composed := by
  rw [text, if_pos h]

theorem text_of_tiny (h : max < n.composed.utf8ByteSize) (hmax : max ≤ digestLength + 1) :
    n.text max = String.ofList (n.digest.take (min max digestLength)) := by
  rw [text, if_neg (Nat.not_le.mpr h), if_pos hmax]

theorem exists_text_of_cut (h : max < n.composed.utf8ByteSize) (hmax : digestLength + 1 < max) :
    ∃ kept, Text.CutAt (max - (digestLength + 1)) n.composed kept ∧
      n.text max = kept ++ "_" ++ String.ofList n.digest := by
  refine ⟨_, Text.cutAt_takeBytes _ n.composed, ?_⟩
  rw [text, if_neg (Nat.not_le.mpr h), if_neg (Nat.not_le.mpr hmax), Nat.sub_sub]
  apply String.toList_injective
  simp

theorem utf8ByteSize_of_tiny (h : max < n.composed.utf8ByteSize) (hmax : max ≤ digestLength + 1) :
    (n.text max).utf8ByteSize = min max digestLength := by
  rw [text_of_tiny h hmax, Text.utf8ByteSize_ofList, byteSize_take_digest]
  omega

theorem utf8ByteSize_of_cut (n : ObjectName) (kept : String) :
    (kept ++ "_" ++ String.ofList n.digest).utf8ByteSize =
      kept.utf8ByteSize + (digestLength + 1) := by
  have hunderscore : "_".utf8ByteSize = 1 := by decide
  rw [String.utf8ByteSize_append, String.utf8ByteSize_append, hunderscore,
    Text.utf8ByteSize_ofList, byteSize_digest]
  omega

/-- A name never exceeds its limit. -/
theorem utf8ByteSize_text_le (n : ObjectName) (max : Nat) : (n.text max).utf8ByteSize ≤ max := by
  rcases Nat.lt_or_ge max n.composed.utf8ByteSize with hlong | hfits
  · rcases Nat.lt_or_ge (digestLength + 1) max with hmax | hmax
    · obtain ⟨kept, hcut, htext⟩ := exists_text_of_cut hlong hmax
      have hkept := hcut.size_le
      rw [htext, utf8ByteSize_of_cut]
      omega
    · rw [utf8ByteSize_of_tiny hlong hmax]
      omega
  · rw [text_of_fits hfits]
    exact hfits

/-! ## No step fails -/

theorem digest?_eq_some (n : ObjectName) : n.digest? = some n.digest := by
  have hlength := Text.length_hexDigits 'a' (Digest.sha256 n.partBytes)
  rw [Digest.length_sha256] at hlength
  have honeByte : ∀ c ∈ Text.hexDigits 'a' (Digest.sha256 n.partBytes), c.utf8Size = 1 :=
    fun _ hc => Text.utf8Size_of_mem_lowerHex (Text.mem_lowerHex_of_mem_hexDigits hc)
  have hlong : digestLength ≤ Text.byteSize (Text.hexDigits 'a' (Digest.sha256 n.partBytes)) := by
    rw [Text.byteSize_eq_length honeByte, hlength]
    decide
  rw [digest?, Text.truncateBytes?, if_pos hlong, digest]
  exact Text.exactBytes?_eq_take honeByte (by rw [hlength]; decide)

/-- The name is found without cutting a text outside itself or inside a character. -/
theorem text?_eq_some (n : ObjectName) (max : Nat) : n.text? max = some (n.text max) := by
  unfold text? text
  split
  · rfl
  · next hlong =>
    rw [digest?_eq_some, Option.bind_eq_bind, Option.bind_some]
    split
    · next hmax =>
      have hdigits : min max digestLength ≤ n.digest.length := by
        rw [length_digest]
        exact Nat.min_le_right _ _
      rw [Text.exactBytes?_eq_take (fun _ => utf8Size_of_mem_digest) hdigits]
      rfl
    · next hmax =>
      have hdigest : lengthWithout? max digestLength = some (max - digestLength) :=
        if_pos (by omega)
      have hunderscore : lengthWithout? (max - digestLength) 1 = some (max - digestLength - 1) :=
        if_pos (by omega)
      simp only [hdigest, hunderscore, Text.takeBytes?_eq_some, Option.bind_eq_bind,
        Option.bind_some, Option.pure_def]

/-- A name that fits is whole. Another one is the beginning of its digest where the limit leaves no
room for more, and else the longest prefix that leaves room for the digest, in front of it. The
digest is taken over the parts with a zero byte between them. In every way, no text is cut outside
itself or inside a character. -/
theorem text_cases (n : ObjectName) (max : Nat) :
    n.text? max = some (n.text max) ∧
      n.composed = n.kind.tag ++ "_" ++ n.table ++ String.join (n.columns.map ("_" ++ ·)) ∧
      n.digest = (Text.hexDigits 'a' (Digest.sha256
        (Text.utf8 n.kind.tag ++ 0 :: Text.utf8 n.table ++
          n.columns.flatMap fun column => 0 :: Text.utf8 column))).take 16 ∧
      n.digest.length = 16 ∧ (∀ c ∈ n.digest, c ∈ "0123456789abcdef".toList) ∧
      (n.composed.utf8ByteSize ≤ max → n.text max = n.composed) ∧
      (max < n.composed.utf8ByteSize → max ≤ 17 →
        n.text max = String.ofList (n.digest.take (min max 16)) ∧
          (n.text max).utf8ByteSize = min max 16) ∧
      (max < n.composed.utf8ByteSize → 17 < max →
        (∃ kept, Text.CutAt (max - 17) n.composed kept ∧
          n.text max = kept ++ "_" ++ String.ofList n.digest) ∧
          max - 3 ≤ (n.text max).utf8ByteSize ∧ n.text max ≠ "") ∧
      (n.text max).utf8ByteSize ≤ max ∧
      ∀ v : Vocabulary,
        (v.objectName n.kind n.table n.columns).utf8ByteSize ≤ v.maxIdentifierLength ∧
          ∀ column, (v.defaultConstraintName n.table column).utf8ByteSize ≤
            v.maxIdentifierLength := by
  refine ⟨text?_eq_some n max, composed_eq n, ?_, length_digest n,
    fun c => mem_lowerHex_of_mem_digest, text_of_fits,
    fun hlong hmax => ⟨text_of_tiny hlong hmax, utf8ByteSize_of_tiny hlong hmax⟩, ?_,
    utf8ByteSize_text_le n max,
    fun v => ⟨utf8ByteSize_text_le _ _, fun column => utf8ByteSize_text_le _ _⟩⟩
  · rw [← partBytes_eq]
    rfl
  · intro hlong hmax
    obtain ⟨kept, hcut, htext⟩ := exists_text_of_cut hlong hmax
    have hsize : (n.text max).utf8ByteSize = kept.utf8ByteSize + 17 := by
      rw [htext, utf8ByteSize_of_cut]
      rfl
    have hunused : max - 17 < kept.utf8ByteSize + 4 := hcut.lt_size_add (by omega)
    refine ⟨⟨kept, hcut, htext⟩, by omega, ?_⟩
    intro hempty
    rw [hempty, String.utf8ByteSize_empty] at hsize
    omega

/-- Twenty-six bytes, of which the sixth and the seventh are one letter. -/
def umlauts : ObjectName := ⟨.unique, "größe", ["maß", "stückzahl"]⟩

/-- Twenty-three bytes leave six for the prefix, and the cut falls before the letter. -/
theorem text_umlauts :
    23 < umlauts.composed.utf8ByteSize ∧ 17 < 23 ∧
      umlauts.text? 23 = some (umlauts.text 23) ∧
      (∃ kept, Text.CutAt 6 umlauts.composed kept ∧
        umlauts.text 23 = kept ++ "_" ++ String.ofList umlauts.digest) ∧
      20 ≤ (umlauts.text 23).utf8ByteSize ∧ umlauts.text 23 = "UQ_gr_39d29e871677e1a2" := by
  have hlong : 23 < umlauts.composed.utf8ByteSize := by decide
  obtain ⟨hchecked, -, -, -, -, -, -, hcut, -, -⟩ := text_cases umlauts 23
  obtain ⟨hkept, hsize, -⟩ := hcut hlong (by decide)
  exact ⟨hlong, by decide, hchecked, hkept, hsize, by decide +kernel⟩

end ObjectName

end SchemaDdl
