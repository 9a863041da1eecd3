import SchemaDdl.Text.Utf8

/-!
# Texts in bytes, and where they may be cut

A text may be cut only between two characters. `cutAt_takeBytes` says that the prefix that is kept
of a text is the longest one that ends on such a boundary within a number of bytes,
`takeBytes?_eq_some` that stepping back from the limit finds this boundary, and `utf8_inj` that a
text is known from its bytes.
-/

namespace SchemaDdl.Text

/-! ## Sizes -/

theorem byteSize_append (cs ds : List Char) : byteSize (cs ++ ds) = byteSize cs + byteSize ds := by
  induction cs with
  | nil => simp [byteSize]
  | cons c rest ih =>
    rw [List.cons_append, byteSize, byteSize, ih]
    omega

theorem utf8ByteSize_ofList (cs : List Char) : (String.ofList cs).utf8ByteSize = byteSize cs := by
  induction cs with
  | nil => rfl
  | cons c rest ih =>
    rw [String.ofList_cons, String.utf8ByteSize_append, ih, String.utf8ByteSize_singleton]
    rfl

theorem byteSize_toList (s : String) : byteSize s.toList = s.utf8ByteSize := by
  rw [← utf8ByteSize_ofList, String.ofList_toList]

theorem byteSize_eq_length {cs : List Char} (h : ∀ c ∈ cs, c.utf8Size = 1) :
    byteSize cs = cs.length := by
  induction cs with
  | nil => rfl
  | cons c rest ih =>
    rw [byteSize, h c (by simp), ih fun d hd => h d (by simp [hd]), List.length_cons]
    omega

/-! ## Cuts -/

/-- What is kept of `s` is the longest prefix of at most `limit` bytes that ends on a boundary
between characters. -/
structure CutAt (limit : Nat) (s kept : String) : Prop where
  exists_rest : ∃ rest, s = kept ++ rest
  boundary : kept.rawEndPos.IsValid s
  size_le : kept.utf8ByteSize ≤ limit
  longest : ∀ p : String.Pos.Raw, p.IsValid s → p.byteIdx ≤ limit → p.byteIdx ≤ kept.utf8ByteSize

/-- A prefix that fits is a prefix of what is kept. -/
theorem isPrefix_takeBytes {cs kept : List Char} (h : kept <+: cs) {limit : Nat}
    (hsize : byteSize kept ≤ limit) : kept <+: takeBytes limit cs := by
  induction cs generalizing kept limit with
  | nil => simpa [takeBytes] using h
  | cons c rest ih =>
    cases kept with
    | nil => exact List.nil_prefix
    | cons d kept =>
      obtain ⟨rfl, hrest⟩ := List.cons_prefix_cons.mp h
      rw [byteSize] at hsize
      rw [takeBytes, if_pos (by omega)]
      exact List.cons_prefix_cons.mpr ⟨rfl, ih hrest (by omega)⟩

theorem byteSize_le_of_isPrefix {cs ds : List Char} (h : cs <+: ds) :
    byteSize cs ≤ byteSize ds := by
  obtain ⟨rest, rfl⟩ := h
  rw [byteSize_append]
  omega

/-- Two limits keep the same prefix if what either keeps fits the other. -/
theorem takeBytes_congr {limit limit' : Nat} {cs : List Char}
    (h : byteSize (takeBytes limit cs) ≤ limit') (h' : byteSize (takeBytes limit' cs) ≤ limit) :
    takeBytes limit cs = takeBytes limit' cs := by
  have hfront := isPrefix_takeBytes (takeBytes_isPrefix limit cs) h
  have hfront' := isPrefix_takeBytes (takeBytes_isPrefix limit' cs) h'
  exact hfront.eq_of_length (Nat.le_antisymm hfront.length_le hfront'.length_le)

theorem cutAt_takeBytes (limit : Nat) (s : String) :
    CutAt limit s (String.ofList (takeBytes limit s.toList)) := by
  obtain ⟨rest, hrest⟩ := takeBytes_isPrefix limit s.toList
  have hsplit : s = String.ofList (takeBytes limit s.toList) ++ String.ofList rest := by
    rw [← String.ofList_append, hrest, String.ofList_toList]
  refine ⟨⟨_, hsplit⟩, ?_, ?_, ?_⟩
  · exact String.Pos.Raw.isValid_iff_exists_append.mpr ⟨_, _, hsplit, rfl⟩
  · rw [utf8ByteSize_ofList]
    exact byteSize_takeBytes_le limit s.toList
  · intro p hp hlimit
    obtain ⟨before, after, hs, rfl⟩ := String.Pos.Raw.isValid_iff_exists_append.mp hp
    have hfront : before.toList <+: s.toList := ⟨after.toList, by rw [hs, String.toList_append]⟩
    change before.utf8ByteSize ≤ limit at hlimit
    change before.utf8ByteSize ≤ _
    rw [← byteSize_toList] at hlimit ⊢
    rw [utf8ByteSize_ofList]
    exact byteSize_le_of_isPrefix (isPrefix_takeBytes hfront hlimit)

/-- A character takes four bytes at most, so a cut leaves no more than three bytes unused. -/
theorem CutAt.lt_size_add {limit : Nat} {s kept : String} (h : CutAt limit s kept)
    (hs : limit < s.utf8ByteSize) : limit < kept.utf8ByteSize + 4 := by
  obtain ⟨rest, rfl⟩ := h.exists_rest
  cases hrest : rest.toList with
  | nil =>
    have hempty : rest = "" := String.toList_eq_nil_iff.mp hrest
    rw [hempty, String.append_empty] at hs
    have := h.size_le
    omega
  | cons c later =>
    -- The boundary behind the next character is a valid one, and it lies beyond the limit.
    have hsplit : kept ++ rest = kept ++ String.singleton c ++ String.ofList later := by
      rw [String.append_assoc, ← String.ofList_cons, ← hrest, String.ofList_toList]
    have hvalid : (kept ++ String.singleton c).rawEndPos.IsValid (kept ++ rest) :=
      String.Pos.Raw.isValid_iff_exists_append.mpr ⟨_, _, hsplit, rfl⟩
    have hsize : (kept ++ String.singleton c).utf8ByteSize = kept.utf8ByteSize + c.utf8Size := by
      rw [String.utf8ByteSize_append, String.utf8ByteSize_singleton]
    have hbeyond : limit < kept.utf8ByteSize + c.utf8Size := by
      rw [← hsize]
      refine Nat.lt_of_not_le fun hle => ?_
      have hlongest := h.longest _ hvalid hle
      have hpos := c.utf8Size_pos
      change (kept ++ String.singleton c).utf8ByteSize ≤ _ at hlongest
      omega
    have hfour := c.utf8Size_le_four
    omega

/-- A first character that fits is kept. -/
theorem CutAt.head?_eq {limit : Nat} {s kept : String} (h : CutAt limit s kept) {c : Char}
    (hc : s.toList.head? = some c) (hlimit : c.utf8Size ≤ limit) :
    kept.toList.head? = some c := by
  obtain ⟨rest, hrest⟩ := List.head?_eq_some_iff.mp hc
  have hsplit : s = String.singleton c ++ String.ofList rest := by
    rw [← String.ofList_cons, ← hrest, String.ofList_toList]
  have hvalid : (String.singleton c).rawEndPos.IsValid s :=
    String.Pos.Raw.isValid_iff_exists_append.mpr ⟨_, _, hsplit, rfl⟩
  have hsize : (String.singleton c).utf8ByteSize = c.utf8Size := String.utf8ByteSize_singleton
  have hkept : (String.singleton c).utf8ByteSize ≤ kept.utf8ByteSize :=
    h.longest _ hvalid (Nat.le_trans (Nat.le_of_eq hsize) hlimit)
  obtain ⟨after, hafter⟩ := h.exists_rest
  cases hhead : kept.toList with
  | nil =>
    have hpos := c.utf8Size_pos
    rw [String.toList_eq_nil_iff.mp hhead, String.utf8ByteSize_empty, hsize] at hkept
    omega
  | cons d later =>
    rw [hafter, String.toList_append, hhead] at hc
    exact hc

/-! ## Cutting at a byte -/

theorem exactBytes?_eq_some_iff {count : Nat} {cs kept : List Char} :
    exactBytes? count cs = some kept ↔ kept <+: cs ∧ byteSize kept = count := by
  induction cs generalizing count kept with
  | nil =>
    cases count with
    | zero => cases kept <;> simp [exactBytes?, byteSize]
    | succ count =>
      simp only [exactBytes?, List.prefix_nil, reduceCtorEq, false_iff]
      rintro ⟨rfl, hsize⟩
      simp [byteSize] at hsize
  | cons c rest ih =>
    have hpos := c.utf8Size_pos
    cases count with
    | zero =>
      cases kept with
      | nil => simp [exactBytes?, byteSize]
      | cons d kept =>
        have hd := d.utf8Size_pos
        simp only [exactBytes?, byteSize, Option.some.injEq, reduceCtorEq, false_iff]
        omega
    | succ count =>
      cases kept with
      | nil =>
        simp only [exactBytes?, byteSize]
        split <;> simp
      | cons d kept =>
        rw [exactBytes?, List.cons_prefix_cons, byteSize]
        split
        · next hfits =>
          simp only [Option.map_eq_some_iff, ih, List.cons.injEq]
          constructor
          · rintro ⟨_, ⟨hfront, hsize⟩, rfl, rfl⟩
            exact ⟨⟨rfl, hfront⟩, by omega⟩
          · rintro ⟨⟨rfl, hfront⟩, hsize⟩
            exact ⟨kept, ⟨hfront, by omega⟩, rfl, rfl⟩
        · next hover =>
          simp only [reduceCtorEq, false_iff]
          rintro ⟨⟨rfl, -⟩, hsize⟩
          omega

theorem isBoundary_iff {cs : List Char} {place : Nat} :
    isBoundary cs place = true ↔ ∃ kept, kept <+: cs ∧ byteSize kept = place := by
  simp only [isBoundary, Option.isSome_iff_exists, exactBytes?_eq_some_iff]

/-- The boundaries are the valid positions of the text. -/
theorem isBoundary_iff_isValid {s : String} {p : String.Pos.Raw} :
    isBoundary s.toList p.byteIdx = true ↔ p.IsValid s := by
  rw [isBoundary_iff, String.Pos.Raw.isValid_iff_exists_append]
  constructor
  · rintro ⟨kept, ⟨rest, hrest⟩, hsize⟩
    refine ⟨String.ofList kept, String.ofList rest, ?_, ?_⟩
    · rw [← String.ofList_append, hrest, String.ofList_toList]
    · rw [String.Pos.Raw.ext_iff, ← hsize, ← utf8ByteSize_ofList]
      rfl
  · rintro ⟨before, after, rfl, rfl⟩
    exact ⟨before.toList, by simp, byteSize_toList before⟩

/-- The step back ends where the longest prefix does that fits. -/
theorem lastBoundary?_eq (cs : List Char) (place : Nat) :
    lastBoundary? cs place = some (byteSize (takeBytes place cs)) := by
  induction place with
  | zero =>
    have hsize : byteSize (takeBytes 0 cs) = 0 := Nat.le_zero.mp (byteSize_takeBytes_le 0 cs)
    have hbegin : isBoundary cs 0 = true := isBoundary_iff.mpr ⟨[], List.nil_prefix, rfl⟩
    rw [lastBoundary?, if_pos hbegin, hsize]
  | succ place ih =>
    have hle := byteSize_takeBytes_le (place + 1) cs
    rw [lastBoundary?]
    split
    · next hboundary =>
      obtain ⟨kept, hfront, hsize⟩ := isBoundary_iff.mp hboundary
      have hkept := byteSize_le_of_isPrefix (isPrefix_takeBytes hfront (Nat.le_of_eq hsize))
      rw [Nat.le_antisymm hle (hsize ▸ hkept)]
    · next hinside =>
      have hne : byteSize (takeBytes (place + 1) cs) ≠ place + 1 := fun hsize =>
        hinside (isBoundary_iff.mpr ⟨_, takeBytes_isPrefix _ _, hsize⟩)
      have hless := byteSize_takeBytes_le place cs
      have hsame : takeBytes (place + 1) cs = takeBytes place cs :=
        takeBytes_congr (by omega) (by omega)
      rw [ih, hsame]

theorem takeBytes?_eq_some (limit : Nat) (cs : List Char) :
    takeBytes? limit cs = some (takeBytes limit cs) := by
  have hlimit := byteSize_takeBytes_le limit cs
  have hall := byteSize_le_of_isPrefix (takeBytes_isPrefix limit cs)
  have hmin := byteSize_takeBytes_le (min limit (byteSize cs)) cs
  have hsame : takeBytes (min limit (byteSize cs)) cs = takeBytes limit cs :=
    takeBytes_congr (by omega) (by omega)
  rw [takeBytes?, lastBoundary?_eq, hsame]
  exact exactBytes?_eq_some_iff.mpr ⟨takeBytes_isPrefix limit cs, rfl⟩

/-- Where characters take one byte each, every byte ends one. -/
theorem exactBytes?_eq_take {count : Nat} {cs : List Char} (h : ∀ c ∈ cs, c.utf8Size = 1)
    (hcount : count ≤ cs.length) : exactBytes? count cs = some (cs.take count) := by
  have hsize : byteSize (cs.take count) = count := by
    rw [byteSize_eq_length fun c hc => h c (List.mem_of_mem_take hc), List.length_take]
    omega
  exact exactBytes?_eq_some_iff.mpr ⟨List.take_prefix count cs, hsize⟩

/-! ## Bytes -/

theorem utf8_inj {s r : String} : utf8 s = utf8 r ↔ s = r := by
  constructor
  · intro h
    have hbytes : s.toList.utf8Encode = r.toList.utf8Encode := congrArg List.toByteArray h
    rw [String.utf8Encode_toList, String.utf8Encode_toList] at hbytes
    exact String.toByteArray_inj.mp hbytes
  · rintro rfl
    rfl

end SchemaDdl.Text
