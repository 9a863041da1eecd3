import Mathlib.Logic.Relation
import SchemaDdl.Proofs.Accepted
import SchemaDdl.Proofs.PlanPhases

/-!
# Entries that fit a kind

What a capability table accepts, said of its entries and without the checks. Main statement:
`CapabilityTable.validate_firstFitting`. A kind is accepted if an entry for it fits, with the
warning of the first one; entries for other kinds have no influence; lowering a demand keeps the
acceptance; and an entry for identity columns also takes them as primary keys, provided that it is
made in the way entries are made.
-/

namespace SchemaDdl

/-! ## Positive sizes and scales -/

namespace SizedKind

variable {k : SizedKind} {n : Nat}

theorem positiveSize_eq_some_iff : k.positiveSize = some n ↔ k.size = some n ∧ 0 < n := by
  simp [positiveSize, Option.filter_eq_some_iff]

theorem positiveSize_eq_none_iff : k.positiveSize = none ↔ ∀ n, k.size = some n → n = 0 := by
  simp [positiveSize, Option.filter_eq_none_iff]

theorem positiveScale_eq_some_iff : k.positiveScale = some n ↔ k.scale = some n ∧ 0 < n := by
  simp [positiveScale, Option.filter_eq_some_iff]

theorem positiveScale_eq_none_iff : k.positiveScale = none ↔ ∀ n, k.scale = some n → n = 0 := by
  simp [positiveScale, Option.filter_eq_none_iff]

end SizedKind

/-! ## What an entry allows -/

namespace Capability

/-- The entry allows the size, the scale and the roles. With a maximal size it is for sized kinds
and without one for kinds that have no size, where a size of zero is none. A scale may be missing in
any case. -/
structure Fits (c : Capability) (k : SizedKind) (usage : Usage) : Prop where
  sized : ∀ max, c.maxSize = some max → ∃ n, k.size = some n ∧ 0 < n ∧ n ≤ max
  unsized : c.maxSize = none → ∀ n, k.size = some n → n = 0
  scale : ∀ n, k.scale = some n → 0 < n → ∃ max, c.maxScale = some max ∧ n ≤ max
  primaryKey : usage.primaryKey = true → c.primaryKey = true
  identity : usage.identity = true → c.identity = true

variable {c : Capability} {k k' : SizedKind} {usage usage' : Usage}

theorem checkUsage_eq_ok_iff :
    c.checkUsage usage = .ok () ↔
      (usage.primaryKey = true → c.primaryKey = true) ∧
        (usage.identity = true → c.identity = true) := by
  unfold checkUsage
  cases usage.primaryKey <;> cases usage.identity <;> cases c.primaryKey <;> cases c.identity <;>
    simp

theorem checkSize_eq_ok_iff_sized :
    c.checkSize k = .ok () ↔
      (∀ max, c.maxSize = some max → ∃ n, k.size = some n ∧ 0 < n ∧ n ≤ max) ∧
        (c.maxSize = none → ∀ n, k.size = some n → n = 0) := by
  simp only [checkSize_eq_ok_iff, SizedKind.positiveSize_eq_none_iff,
    SizedKind.positiveSize_eq_some_iff]
  cases c.maxSize with
  | none => simp
  | some max => simp [and_assoc]

theorem checkScale_eq_ok_iff_scaled :
    c.checkScale k = .ok () ↔
      ∀ n, k.scale = some n → 0 < n → ∃ max, c.maxScale = some max ∧ n ≤ max := by
  rw [checkScale_eq_ok_iff]
  cases hscale : k.positiveScale with
  | none =>
    have hzero := SizedKind.positiveScale_eq_none_iff.mp hscale
    refine iff_of_true (.inl rfl) fun n hn hpos => ?_
    exact absurd (hzero n hn) (Nat.ne_of_gt hpos)
  | some s =>
    obtain ⟨hs, hpos⟩ := SizedKind.positiveScale_eq_some_iff.mp hscale
    simp [hs, hpos]

/-- The checks of an entry pass exactly if it fits. -/
theorem check_eq_ok_iff_fits : c.check k usage = .ok () ↔ c.Fits k usage := by
  rw [check_eq_ok_iff, checkSize_eq_ok_iff_sized, checkScale_eq_ok_iff_scaled,
    checkUsage_eq_ok_iff]
  constructor
  · rintro ⟨⟨hsized, hunsized⟩, hscale, hkey, hidentity⟩
    exact ⟨hsized, hunsized, hscale, hkey, hidentity⟩
  · rintro ⟨hsized, hunsized, hscale, hkey, hidentity⟩
    exact ⟨⟨hsized, hunsized⟩, hscale, hkey, hidentity⟩

theorem isOk_check_iff_fits : (c.check k usage).isOk = true ↔ c.Fits k usage := by
  rw [← check_eq_ok_iff_fits]
  cases c.check k usage <;> simp [Except.isOk, Except.toBool]

end Capability

/-! ## Lower demands -/

/-- One demand that a column makes is lowered: its size to a smaller one that is still a size, its
scale to a smaller one or to none, or its roles by one. -/
inductive Lowers : SizedKind × Usage → SizedKind × Usage → Prop
  | size {k : SizedKind} {n m : Nat} (usage : Usage) (given : k.size = some n) (positive : 0 < m)
      (smaller : m ≤ n) : Lowers (k, usage) ({ k with size := some m }, usage)
  | scale {k : SizedKind} {n m : Nat} (usage : Usage) (given : k.scale = some n)
      (smaller : m ≤ n) : Lowers (k, usage) ({ k with scale := some m }, usage)
  | noScale (k : SizedKind) (usage : Usage) : Lowers (k, usage) ({ k with scale := none }, usage)
  | noPrimaryKey (k : SizedKind) (usage : Usage) :
      Lowers (k, usage) (k, { usage with primaryKey := false })
  | noIdentity (k : SizedKind) (usage : Usage) :
      Lowers (k, usage) (k, { usage with identity := false })

section

variable {demand demand' : SizedKind × Usage}

theorem Lowers.kind_eq (h : Lowers demand demand') : demand'.1.kind = demand.1.kind := by
  cases h <;> rfl

/-- An entry that fits a demand fits a lower one. -/
theorem Lowers.fits {c : Capability} (h : Lowers demand demand')
    (hfits : c.Fits demand.1 demand.2) : c.Fits demand'.1 demand'.2 := by
  obtain ⟨hsized, hunsized, hscale, hkey, hidentity⟩ := hfits
  cases h with
  | @size k n m usage hn hm hle =>
    refine ⟨fun max hmax => ?_, fun hnone => ?_, hscale, hkey, hidentity⟩
    · obtain ⟨n', hn', -, hle'⟩ := hsized max hmax
      have hsame : n' = n := Option.some.inj (hn'.symm.trans hn)
      exact ⟨m, rfl, hm, by omega⟩
    · -- An entry without a size would have refused the larger size, too.
      have hzero : n = 0 := hunsized hnone n hn
      omega
  | @scale k n m usage hn hle =>
    refine ⟨hsized, hunsized, fun s hs hpos => ?_, hkey, hidentity⟩
    have hsame : m = s := Option.some.inj hs
    obtain ⟨max, hmax, hmaxle⟩ := hscale n hn (by omega)
    exact ⟨max, hmax, by omega⟩
  | noScale => exact ⟨hsized, hunsized, nofun, hkey, hidentity⟩
  | noPrimaryKey => exact ⟨hsized, hunsized, hscale, nofun, hidentity⟩
  | noIdentity => exact ⟨hsized, hunsized, hscale, hkey, nofun⟩

end

/-! ## How entries are made -/

namespace Capability

/-- The entry is made for a kind, and whatever else it allows is added to it, in some order. -/
inductive Built : Capability → Prop
  | of (kind : Kind) : Built (.of kind)
  | upToSize {c : Capability} (h : c.Built) (max : Nat) : Built (c.upToSize max)
  | upToScale {c : Capability} (h : c.Built) (max : Nat) : Built (c.upToScale max)
  | forPrimaryKey {c : Capability} (h : c.Built) : Built c.forPrimaryKey
  | forIdentity {c : Capability} (h : c.Built) : Built c.forIdentity
  | withWarning {c : Capability} (h : c.Built) (warning : String) : Built (c.withWarning warning)

variable {c : Capability}

theorem Built.primaryKey_of_identity (h : c.Built) : c.identity = true → c.primaryKey = true := by
  induction h with
  | of kind => exact nofun
  | upToSize _ _ ih | upToScale _ _ ih | withWarning _ _ ih => exact ih
  | forPrimaryKey _ _ => exact fun _ => rfl
  | forIdentity _ _ => exact fun _ => rfl

/-- Nothing else is common to the entries that are made so. -/
theorem built_iff : c.Built ↔ (c.identity = true → c.primaryKey = true) := by
  refine ⟨Built.primaryKey_of_identity, fun himplies => ?_⟩
  obtain ⟨kind, maxSize, maxScale, primaryKey, identity, warning⟩ := c
  have hroles : Built { kind, primaryKey, identity } := by
    cases identity with
    | true =>
      have hkey : primaryKey = true := himplies rfl
      subst hkey
      exact .forIdentity (.of kind)
    | false =>
      cases primaryKey with
      | true => exact .forPrimaryKey (.of kind)
      | false => exact .of kind
  have hsize : Built { kind, maxSize, primaryKey, identity } := by
    cases maxSize with
    | none => exact hroles
    | some max => exact hroles.upToSize max
  have hscale : Built { kind, maxSize, maxScale, primaryKey, identity } := by
    cases maxScale with
    | none => exact hsize
    | some max => exact hsize.upToScale max
  cases warning with
  | none => exact hscale
  | some text => exact hscale.withWarning text

instance : DecidablePred Built := fun _ => decidable_of_iff _ built_iff.symm

end Capability

/-! ## Tables -/

/-- The lists differ in nothing but entries for other kinds that only one of them has. -/
inductive SameEntriesFor (kind : Kind) : List Capability → List Capability → Prop
  | nil : SameEntriesFor kind [] []
  | both (c : Capability) {cs cs' : List Capability} (h : SameEntriesFor kind cs cs') :
      SameEntriesFor kind (c :: cs) (c :: cs')
  | inserted {c : Capability} {cs cs' : List Capability} (hc : c.kind ≠ kind)
      (h : SameEntriesFor kind cs cs') : SameEntriesFor kind cs (c :: cs')
  | removed {c : Capability} {cs cs' : List Capability} (hc : c.kind ≠ kind)
      (h : SameEntriesFor kind cs cs') : SameEntriesFor kind (c :: cs) cs'

theorem SameEntriesFor.filter_eq {kind : Kind} {cs cs' : List Capability}
    (h : SameEntriesFor kind cs cs') :
    cs.filter (·.kind == kind) = cs'.filter (·.kind == kind) := by
  induction h with
  | nil => rfl
  | both c _ ih => rw [List.filter_cons, List.filter_cons, ih]
  | inserted hc _ ih => rw [ih, List.filter_cons_of_neg (by simpa using hc)]
  | removed hc _ ih => rw [← ih, List.filter_cons_of_neg (by simpa using hc)]

namespace CapabilityTable

/-- The entry is the first one of the table that is for the kind and fits it. -/
def IsFirstFitting (t : CapabilityTable) (k : SizedKind) (usage : Usage) (c : Capability) : Prop :=
  ∃ before after, t.entries = before ++ c :: after ∧ (c.kind = k.kind ∧ c.Fits k usage) ∧
    ∀ b ∈ before, b.kind = k.kind → ¬b.Fits k usage

variable {t t' : CapabilityTable} {k k' : SizedKind} {usage usage' : Usage} {c : Capability}
  {column : String} {w : Option String}

theorem accepting?_eq_some_iff : t.accepting? k usage = some c ↔ t.IsFirstFitting k usage c := by
  have htest : ∀ c : Capability, (decide (c.kind = k.kind) && (c.check k usage).isOk) = true ↔
      c.kind = k.kind ∧ c.Fits k usage := fun c => by
    rw [Bool.and_eq_true, decide_eq_true_eq, Capability.isOk_check_iff_fits]
  rw [accepting?, List.find?_eq_some_iff_append, htest]
  constructor
  · rintro ⟨hfits, before, after, hsplit, hbefore⟩
    refine ⟨before, after, hsplit, hfits, fun b hb hkind hfitsb => ?_⟩
    have hrefused := hbefore b hb
    rw [(htest b).mpr ⟨hkind, hfitsb⟩] at hrefused
    cases hrefused
  · rintro ⟨before, after, hsplit, hfits, hbefore⟩
    refine ⟨hfits, before, after, hsplit, fun b hb => ?_⟩
    rw [Bool.not_eq_true', ← Bool.not_eq_true, htest]
    exact fun h => hbefore b hb h.1 h.2

/-- The warning is the one of the first entry that fits. -/
theorem validate_eq_ok_iff :
    t.validate column k usage = .ok w ↔ ∃ c, t.IsFirstFitting k usage c ∧ c.warning = w := by
  simp only [← accepting?_eq_some_iff]
  cases hfound : t.accepting? k usage with
  | none =>
    obtain ⟨reason, hreason⟩ := exists_of_accepting?_eq_none hfound column
    simp [hreason]
  | some c => simp [validate_of_accepting?_eq_some hfound]

theorem exists_isFirstFitting_iff :
    (∃ c, t.IsFirstFitting k usage c) ↔ ∃ c ∈ t.entries, c.kind = k.kind ∧ c.Fits k usage := by
  simp only [← accepting?_eq_some_iff, ← Option.isSome_iff_exists, accepting?, List.find?_isSome,
    Bool.and_eq_true, decide_eq_true_eq, Capability.isOk_check_iff_fits]

/-- A kind is accepted if some entry for it fits. -/
theorem accepts_iff :
    (∃ w, t.validate column k usage = .ok w) ↔
      ∃ c ∈ t.entries, c.kind = k.kind ∧ c.Fits k usage := by
  rw [← exists_isFirstFitting_iff]
  simp only [validate_eq_ok_iff]
  constructor
  · rintro ⟨w, c, hfirst, -⟩
    exact ⟨c, hfirst⟩
  · rintro ⟨c, hfirst⟩
    exact ⟨c.warning, c, hfirst, rfl⟩

theorem validate_of_sameEntriesFor (hdialect : t'.dialect = t.dialect)
    (h : SameEntriesFor k.kind t.entries t'.entries) :
    t'.validate column k usage = t.validate column k usage := by
  have hentries : t'.entriesFor k.kind = t.entriesFor k.kind := h.filter_eq.symm
  rw [validate, validate, hentries, hdialect]

theorem accepts_of_lowers {demand demand' : SizedKind × Usage} (h : Lowers demand demand')
    (haccepted : ∃ w, t.validate column demand.1 demand.2 = .ok w) :
    ∃ w, t.validate column demand'.1 demand'.2 = .ok w := by
  obtain ⟨c, hmem, hkind, hfits⟩ := accepts_iff.mp haccepted
  exact accepts_iff.mpr ⟨c, hmem, hkind.trans h.kind_eq.symm, h.fits hfits⟩

/-- Acceptance is kept by lowering any number of demands. -/
theorem accepts_of_lowered {demand demand' : SizedKind × Usage}
    (h : Relation.ReflTransGen Lowers demand demand')
    (haccepted : ∃ w, t.validate column demand.1 demand.2 = .ok w) :
    ∃ w, t.validate column demand'.1 demand'.2 = .ok w := by
  induction h with
  | refl => exact haccepted
  | tail _ hstep ih => exact accepts_of_lowers hstep ih

theorem IsFirstFitting.congr (hfits : ∀ c ∈ t.entries, c.Fits k usage ↔ c.Fits k usage')
    (h : t.IsFirstFitting k usage c) : t.IsFirstFitting k usage' c := by
  obtain ⟨before, after, hsplit, ⟨hkind, hc⟩, hbefore⟩ := h
  refine ⟨before, after, hsplit, ⟨hkind, (hfits c (by simp [hsplit])).mp hc⟩, ?_⟩
  intro b hb hb' hfitsb
  exact hbefore b hb hb' ((hfits b (by simp [hsplit, hb])).mpr hfitsb)

/-- Entries that are made in the usual way take an identity column into the primary key. -/
theorem fits_identity (hbuilt : c.Built) : c.Fits k ⟨false, true⟩ ↔ c.Fits k ⟨true, true⟩ := by
  constructor
  · intro h
    have hkey : c.primaryKey = true := hbuilt.primaryKey_of_identity (h.identity rfl)
    exact ⟨h.sized, h.unsized, h.scale, fun _ => hkey, h.identity⟩
  · exact fun h => ⟨h.sized, h.unsized, h.scale, nofun, h.identity⟩

/-- A table accepts a kind if an entry for it fits, and gives the warning of the first one that
does. Entries for other kinds have no influence, acceptance is kept where demands are lowered, and
an identity column that is accepted may be a primary key. -/
theorem validate_firstFitting (t : CapabilityTable) (column : String) (k : SizedKind)
    (usage : Usage) :
    ((∃ w, t.validate column k usage = .ok w) ↔
      ∃ c ∈ t.entries, c.kind = k.kind ∧ c.Fits k usage) ∧
    (∀ w, t.validate column k usage = .ok w ↔
      ∃ c, t.IsFirstFitting k usage c ∧ c.warning = w) ∧
    (∀ t' : CapabilityTable, t'.dialect = t.dialect → SameEntriesFor k.kind t.entries t'.entries →
      t'.validate column k usage = t.validate column k usage) ∧
    (∀ k' usage', Relation.ReflTransGen Lowers (k, usage) (k', usage') →
      (∃ w, t.validate column k usage = .ok w) → ∃ w, t.validate column k' usage' = .ok w) ∧
    ((∀ c ∈ t.entries, c.Built) → ∀ w, t.validate column k ⟨false, true⟩ = .ok w →
      t.validate column k ⟨true, true⟩ = .ok w) := by
  refine ⟨accepts_iff, fun w => validate_eq_ok_iff, fun t' => validate_of_sameEntriesFor,
    fun k' usage' => accepts_of_lowered, fun hbuilt w hw => ?_⟩
  rw [validate_eq_ok_iff] at hw ⊢
  obtain ⟨c, hfirst, hwarning⟩ := hw
  exact ⟨c, hfirst.congr fun c hc => fits_identity (hbuilt c hc), hwarning⟩

/-- Amounts with digits behind the point, which have no role but the key, and without them. -/
def amounts : CapabilityTable where
  dialect := "ledger"
  entries :=
    [(((Capability.of .decimal).upToSize 28).upToScale 28).forPrimaryKey,
     ((Capability.of .decimal).forIdentity.withWarning "Counts whole units.").upToSize 28]

/-- The second entry counts where the first one does not fit, an entry for another kind in front of
them changes nothing, and an amount that is accepted may become shorter. -/
theorem validate_firstFitting_amounts :
    amounts.validate "id" (.sized .decimal 18) ⟨false, true⟩ = .ok (some "Counts whole units.") ∧
      amounts.validate "id" (.sized .decimal 18) ⟨true, true⟩ = .ok (some "Counts whole units.") ∧
      CapabilityTable.validate ⟨"ledger", .of .xml :: amounts.entries⟩ "id" (.sized .decimal 18)
        ⟨false, true⟩ = .ok (some "Counts whole units.") ∧
      Relation.ReflTransGen Lowers (.decimal 28 4, ⟨true, false⟩) (.sized .decimal 9, {}) ∧
      ∃ w, amounts.validate "price" (.sized .decimal 9) {} = .ok w := by
  obtain ⟨-, -, hothers, -, hidentity⟩ :=
    validate_firstFitting amounts "id" (.sized .decimal 18) ⟨false, true⟩
  obtain ⟨-, -, -, hlowered, -⟩ :=
    validate_firstFitting amounts "price" (.decimal 28 4) ⟨true, false⟩
  have haccepted : amounts.validate "id" (.sized .decimal 18) ⟨false, true⟩ =
      .ok (some "Counts whole units.") := rfl
  have hentries : SameEntriesFor .decimal amounts.entries (.of .xml :: amounts.entries) :=
    .inserted (by decide) (.both _ (.both _ .nil))
  have hchain : Relation.ReflTransGen Lowers (.decimal 28 4, ⟨true, false⟩)
      (.sized .decimal 9, {}) :=
    .tail (.tail (.single (.size _ rfl (by decide) (by decide))) (.noScale _ _)) (.noPrimaryKey _ _)
  exact ⟨haccepted, hidentity (by decide) _ haccepted,
    (hothers ⟨"ledger", .of .xml :: amounts.entries⟩ rfl hentries).trans haccepted,
    hchain, hlowered _ _ hchain ⟨_, rfl⟩⟩

end CapabilityTable

end SchemaDdl
