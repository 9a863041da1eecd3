import SchemaDdl.Proofs.DerivedName

/-!
# When derived names are equal

Different parts may join to one text, as a table `a_b` with a column `c` and a table `a` with a
column `b_c` do. The digest keeps them apart because it is taken over the parts with a zero byte
between them. `text_collision` says what is left: names for different purposes differ in their first
letter, and two shortened names are equal only if the digests of their parts begin alike.
-/

namespace SchemaDdl.ObjectName

variable {n m : ObjectName} {max : Nat}

/-! ## Parts in bytes -/

/-- Table and columns with a NUL character between them. -/
def joined (n : ObjectName) : String := "\x00".intercalate (n.table :: n.columns)

/-- Neither the table nor a column holds the NUL character. -/
def NulFree (n : ObjectName) : Prop := ∀ name ∈ n.table :: n.columns, '\x00' ∉ name.toList

instance (n : ObjectName) : Decidable n.NulFree :=
  inferInstanceAs (Decidable (∀ name ∈ n.table :: n.columns, _))

theorem toList_joined (n : ObjectName) :
    n.joined.toList = ['\x00'].intercalate ((n.table :: n.columns).map String.toList) :=
  String.toList_intercalate

theorem partBytes_eq_joined (n : ObjectName) :
    n.partBytes = Text.utf8 n.kind.tag ++ 0 :: Text.utf8 n.joined := by
  have hzero : String.utf8EncodeChar '\x00' = [0] := by decide
  have hjoined : Text.utf8 n.joined =
      Text.utf8 n.table ++ n.columns.flatMap fun column => 0 :: Text.utf8 column := by
    rw [Text.utf8, toList_joined, List.map_cons, intercalate_cons]
    simp [Text.utf8, List.flatMap_append, List.flatMap_map, List.flatMap_assoc, hzero]
  rw [partBytes_eq, hjoined, List.append_assoc, List.cons_append]

/-- The tags have two letters each, so they are read off the bytes. -/
theorem partBytes_inj : n.partBytes = m.partBytes ↔ n.kind = m.kind ∧ n.joined = m.joined := by
  have hlength : ∀ kind : ObjectKind, (Text.utf8 kind.tag).length = 2 := by
    intro kind
    cases kind <;> decide
  have htag : ∀ kind kind' : ObjectKind, kind.tag = kind'.tag → kind = kind' := by
    intro kind kind'
    cases kind <;> cases kind' <;> decide
  rw [partBytes_eq_joined, partBytes_eq_joined]
  constructor
  · intro h
    obtain ⟨hkind, hrest⟩ := List.append_inj h ((hlength _).trans (hlength _).symm)
    exact ⟨htag _ _ (Text.utf8_inj.mp hkind), Text.utf8_inj.mp (List.cons.inj hrest).2⟩
  · rintro ⟨hkind, hjoined⟩
    rw [hkind, hjoined]

/-- Names without NUL are what stands between the NUL characters. -/
theorem splitOn_joined (h : n.NulFree) :
    n.joined.toList.splitOn '\x00' = (n.table :: n.columns).map String.toList := by
  rw [toList_joined]
  apply List.splitOn_intercalate
  · intro cs hcs
    obtain ⟨name, hname, rfl⟩ := List.mem_map.mp hcs
    exact h name hname
  · simp

theorem joined_inj (hn : n.NulFree) (hm : m.NulFree) :
    n.joined = m.joined ↔ n.table = m.table ∧ n.columns = m.columns := by
  constructor
  · intro h
    have hparts : (n.table :: n.columns).map String.toList =
        (m.table :: m.columns).map String.toList := by
      rw [← splitOn_joined hn, ← splitOn_joined hm, h]
    exact List.cons.inj ((List.map_inj_right fun _ _ => String.toList_inj.mp).mp hparts)
  · rintro ⟨htable, hcolumns⟩
    rw [joined, joined, htable, hcolumns]

/-! ## Names -/

theorem head?_composed (n : ObjectName) :
    n.composed.toList.head? = n.kind.tag.toList.head? := by
  rw [composed_eq]
  cases n.kind <;> simp [ObjectKind.tag]

/-- A name begins with the first letter of its tag, however short its prefix is. -/
theorem head?_text (hmax : 18 ≤ max) (n : ObjectName) :
    (n.text max).toList.head? = n.kind.tag.toList.head? := by
  have hletter : ∀ kind : ObjectKind, ∃ c, kind.tag.toList.head? = some c ∧ c.utf8Size = 1 := by
    intro kind
    cases kind <;> exact ⟨_, rfl, by decide⟩
  rcases Nat.lt_or_ge max n.composed.utf8ByteSize with hlong | hfits
  · obtain ⟨kept, hcut, htext⟩ := exists_text_of_cut hlong hmax
    obtain ⟨c, hc, hsize⟩ := hletter n.kind
    have hroom : c.utf8Size ≤ max - (digestLength + 1) := by
      rw [hsize, digestLength]
      omega
    have hkept := hcut.head?_eq ((head?_composed n).trans hc) hroom
    rw [htext, String.toList_append, String.toList_append, List.append_assoc, List.head?_append,
      hkept, hc]
    rfl
  · rw [text_of_fits hfits, head?_composed]

theorem kind_eq_of_text_eq (hmax : 18 ≤ max) (h : n.text max = m.text max) : n.kind = m.kind := by
  have hletter : ∀ kind kind' : ObjectKind,
      kind.tag.toList.head? = kind'.tag.toList.head? → kind = kind' := by
    intro kind kind'
    cases kind <;> cases kind' <;> decide
  apply hletter
  rw [← head?_text hmax n, ← head?_text hmax m, h]

/-- The digest is the end of a shortened name, so the length of the prefix does not matter. -/
theorem digest_eq_of_text_eq (hmax : 18 ≤ max) (hn : max < n.composed.utf8ByteSize)
    (hm : max < m.composed.utf8ByteSize) (h : n.text max = m.text max) : n.digest = m.digest := by
  obtain ⟨kept, -, hkept⟩ := exists_text_of_cut hn hmax
  obtain ⟨kept', -, hkept'⟩ := exists_text_of_cut hm hmax
  have htext : (kept ++ "_").toList ++ n.digest = (kept' ++ "_").toList ++ m.digest := by
    have hlists := congrArg String.toList (hkept.symm.trans (h.trans hkept'))
    simpa only [String.toList_append, String.toList_ofList] using hlists
  exact List.append_inj_right' htext ((length_digest n).trans (length_digest m).symm)

/-- Different bytes whose digests begin with the same digits. -/
def Collision (bytes bytes' : List UInt8) : Prop :=
  bytes ≠ bytes' ∧ (Text.hexDigits 'a' (Digest.sha256 bytes)).take digestLength =
    (Text.hexDigits 'a' (Digest.sha256 bytes')).take digestLength

/-- Names for different purposes differ. Two shortened names are equal only if the digests of their
parts begin alike, and the parts are known from their bytes up to NUL characters in the names: for
names without one, equal shortened names of different objects are a collision of the digest. -/
theorem text_collision (hmax : 18 ≤ max) (n m : ObjectName) :
    (n.kind ≠ m.kind → n.text max ≠ m.text max) ∧
      (max < n.composed.utf8ByteSize → max < m.composed.utf8ByteSize →
        n.text max = m.text max →
        (Text.hexDigits 'a' (Digest.sha256 n.partBytes)).take 16 =
          (Text.hexDigits 'a' (Digest.sha256 m.partBytes)).take 16) ∧
      n.partBytes = Text.utf8 n.kind.tag ++ 0 :: Text.utf8 n.joined ∧
      (n.partBytes = m.partBytes ↔ n.kind = m.kind ∧ n.joined = m.joined) ∧
      (n.NulFree → m.NulFree → (n.partBytes = m.partBytes ↔ n = m)) ∧
      (n.NulFree → m.NulFree → n ≠ m → max < n.composed.utf8ByteSize →
        max < m.composed.utf8ByteSize → n.text max = m.text max →
        Collision n.partBytes m.partBytes) := by
  have hbytes : n.NulFree → m.NulFree → (n.partBytes = m.partBytes ↔ n = m) := by
    intro hn hm
    rw [partBytes_inj, joined_inj hn hm]
    cases n
    cases m
    simp
  refine ⟨fun hkind h => hkind (kind_eq_of_text_eq hmax h), ?_, partBytes_eq_joined n,
    partBytes_inj, hbytes, ?_⟩
  · exact fun hn hm h => digest_eq_of_text_eq hmax hn hm h
  · intro hnul hnul' hne hn hm h
    exact ⟨fun heq => hne ((hbytes hnul hnul').mp heq), digest_eq_of_text_eq hmax hn hm h⟩

/-- The number of a line, in a table of lines. -/
def lineNumber : ObjectName := ⟨.index, "order_line", ["number"]⟩

/-- The number of a line, in a table of orders. -/
def orderLineNumber : ObjectName := ⟨.index, "order", ["line_number"]⟩

/-- Both join to one text, and the digest keeps their names apart. -/
theorem text_collision_split :
    18 ≤ 18 ∧ lineNumber.composed = orderLineNumber.composed ∧
      18 < lineNumber.composed.utf8ByteSize ∧ lineNumber.partBytes ≠ orderLineNumber.partBytes ∧
      lineNumber.text 18 ≠ orderLineNumber.text 18 := by
  have hmax : 18 ≤ 18 := Nat.le_refl 18
  have hlong : 18 < lineNumber.composed.utf8ByteSize := by decide
  have hlong' : 18 < orderLineNumber.composed.utf8ByteSize := by decide
  obtain ⟨-, hdigits, -, -, hbytes, -⟩ := text_collision hmax lineNumber orderLineNumber
  refine ⟨hmax, by decide, hlong, ?_, ?_⟩
  · rw [Ne, hbytes (by decide) (by decide)]
    decide
  · exact fun h => absurd (hdigits hlong hlong' h) (by decide +kernel)

end SchemaDdl.ObjectName
