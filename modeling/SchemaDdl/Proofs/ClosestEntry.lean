import SchemaDdl.Proofs.Accepted

/-!
# The reason for a rejection

A kind may have several entries, and each of them turns it down for a reason of its own. The entry
that comes closest to accepting it is one that passes the most checks before it fails. A table gives
the reason of its last entry for the kind. `validate_closest_iff` says when that is the reason of a
closest entry: if the last entry is one itself.
-/

namespace SchemaDdl

/-! ## Reasons and checks -/

/-- The check that a reason comes from, counted in the order of the checks: the size is the first,
the scale the second, the primary key the third and identity the fourth. -/
def Rejection.stage : Rejection → Nat
  | undeclared => 0
  | sizeNotAccepted _ | sizeRequired | sizeTooLarge .. => 1
  | scaleNotAccepted _ | scaleTooLarge .. => 2
  | notForPrimaryKey => 3
  | notForIdentity => 4

namespace Capability

variable {c : Capability} {k : SizedKind} {usage : Usage} {reason : Rejection}

theorem check_eq_error_iff :
    c.check k usage = .error reason ↔
      c.checkSize k = .error reason ∨
        c.checkSize k = .ok () ∧ c.checkScale k = .error reason ∨
        c.checkSize k = .ok () ∧ c.checkScale k = .ok () ∧
          c.checkUsage usage = .error reason := by
  unfold check
  cases hsize : c.checkSize k with
  | error e => simp [bind, Except.bind]
  | ok _ => cases hscale : c.checkScale k <;> simp [bind, Except.bind]

theorem stage_of_checkSize (h : c.checkSize k = .error reason) : reason.stage = 1 := by
  unfold checkSize at h
  split at h
  · cases h
    rfl
  · cases h
    rfl
  · split at h
    · cases h
      rfl
    · cases h
  · cases h

theorem stage_of_checkScale (h : c.checkScale k = .error reason) : reason.stage = 2 := by
  unfold checkScale at h
  split at h
  · cases h
    rfl
  · split at h
    · cases h
      rfl
    · cases h
  · cases h

theorem role_of_checkUsage (h : c.checkUsage usage = .error reason) :
    reason = .notForPrimaryKey ∨ reason = .notForIdentity := by
  unfold checkUsage at h
  split at h
  · cases h
    exact .inl rfl
  · split at h
    · cases h
      exact .inr rfl
    · cases h

/-- A reason that comes after the size and the scale is about a role. -/
theorem role_of_two_lt_stage (h : c.check k usage = .error reason) (hstage : 2 < reason.stage) :
    reason = .notForPrimaryKey ∨ reason = .notForIdentity := by
  rcases check_eq_error_iff.mp h with hsize | ⟨-, hscale⟩ | ⟨-, -, husage⟩
  · rw [stage_of_checkSize hsize] at hstage
    omega
  · rw [stage_of_checkScale hscale] at hstage
    omega
  · exact role_of_checkUsage husage

theorem two_lt_stage_of_role (h : reason = .notForPrimaryKey ∨ reason = .notForIdentity) :
    2 < reason.stage := by
  rcases h with rfl | rfl <;> decide

end Capability

/-! ## Reasons and entries -/

namespace CapabilityTable

variable {t : CapabilityTable} {k : SizedKind} {usage : Usage} {c last : Capability}
  {reason : Rejection}

/-- An entry for the kind whose rejection comes from the latest check among all of them. -/
def IsClosest (t : CapabilityTable) (k : SizedKind) (usage : Usage) (c : Capability) : Prop :=
  c ∈ t.entriesFor k.kind ∧
    ∃ reason, c.check k usage = .error reason ∧
      ∀ c' ∈ t.entriesFor k.kind, ∀ reason', c'.check k usage = .error reason' →
        reason'.stage ≤ reason.stage

/-- Where no entry accepts the kind, every entry rejects it and the last of them gives the
reason. -/
theorem rejected_of_firstAccepting {entries : List Capability} {start : Rejection}
    (h : firstAccepting k usage entries start = .error reason) :
    (∀ c ∈ entries, ∃ r, c.check k usage = .error r) ∧
      ∀ last, entries.getLast? = some last → last.check k usage = .error reason := by
  induction entries generalizing start with
  | nil => simp
  | cons c rest ih =>
    rw [firstAccepting] at h
    cases hc : c.check k usage with
    | ok _ =>
      rw [hc] at h
      cases h
    | error r =>
      rw [hc] at h
      obtain ⟨hrest, hlast⟩ := ih h
      refine ⟨?_, ?_⟩
      · intro c' hc'
        rcases List.mem_cons.mp hc' with rfl | hc'
        · exact ⟨r, hc⟩
        · exact hrest c' hc'
      · intro last hgiven
        cases rest with
        | nil =>
          -- The only entry is the last one, and its own reason is what remains.
          cases hgiven
          cases h
          exact hc
        | cons c' later =>
          rw [List.getLast?_cons_cons] at hgiven
          exact hlast last hgiven

theorem exists_getLast?_entriesFor (h : t.supports k.kind = true) :
    ∃ last, (t.entriesFor k.kind).getLast? = some last := by
  obtain ⟨c, hc, hkind⟩ := List.any_eq_true.mp h
  have hmem : c ∈ t.entriesFor k.kind := List.mem_filter.mpr ⟨hc, hkind⟩
  exact ⟨_, List.getLast?_eq_some_getLast (List.ne_nil_of_mem hmem)⟩

theorem exists_of_validate_eq_error {column : String} {e : DdlError}
    (h : t.validate column k usage = .error e) :
    ∃ reason, firstAccepting k usage (t.entriesFor k.kind) .undeclared = .error reason ∧
      e = .kindNotSupported column k.kind t.dialect reason := by
  unfold validate at h
  cases hrun : firstAccepting k usage (t.entriesFor k.kind) .undeclared with
  | ok w =>
    rw [hrun] at h
    cases h
  | error reason =>
    rw [hrun] at h
    cases h
    exact ⟨reason, rfl, rfl⟩

/-- A reason comes from one check only, so another entry that gives the reason of a closest one is a
closest one as well. -/
theorem IsClosest.of_same_reason (hc : t.IsClosest k usage c)
    (hreason : c.check k usage = .error reason) (hlast : last ∈ t.entriesFor k.kind)
    (h : last.check k usage = .error reason) : t.IsClosest k usage last := by
  obtain ⟨-, reason', hreason', hlatest⟩ := hc
  cases hreason.symm.trans hreason'
  exact ⟨hlast, reason, h, hlatest⟩

/-- The reason that a table reports is that of its last entry for the kind. It is the reason of a
closest entry exactly if the last one is closest, and then an entry that objects to nothing but the
role keeps size and scale out of the report. -/
theorem validate_closest_iff {column : String} {e : DdlError} (hdeclared : t.supports k.kind = true)
    (h : t.validate column k usage = .error e) :
    ∃ last reason, (t.entriesFor k.kind).getLast? = some last ∧
      last.check k usage = .error reason ∧
      e = .kindNotSupported column k.kind t.dialect reason ∧
      ((∃ c, t.IsClosest k usage c ∧ c.check k usage = .error reason) ↔
        t.IsClosest k usage last) ∧
      (t.IsClosest k usage last → ∀ c ∈ t.entriesFor k.kind,
        c.checkSize k = .ok () → c.checkScale k = .ok () →
        reason = .notForPrimaryKey ∨ reason = .notForIdentity) := by
  obtain ⟨reason, hrun, rfl⟩ := exists_of_validate_eq_error h
  obtain ⟨last, hlast⟩ := exists_getLast?_entriesFor hdeclared
  obtain ⟨hall, hreport⟩ := rejected_of_firstAccepting hrun
  have hreason : last.check k usage = .error reason := hreport last hlast
  have hmem : last ∈ t.entriesFor k.kind := List.mem_of_getLast? hlast
  refine ⟨last, reason, hlast, hreason, rfl, ⟨?_, ?_⟩, ?_⟩
  · rintro ⟨c, hclosest, hc⟩
    exact hclosest.of_same_reason hc hmem hreason
  · intro hclosest
    exact ⟨last, hclosest, hreason⟩
  · rintro ⟨-, reason', hreason', hlatest⟩ c hc hsize hscale
    cases hreason.symm.trans hreason'
    obtain ⟨r, hr⟩ := hall c hc
    have hrole : r = .notForPrimaryKey ∨ r = .notForIdentity := by
      rcases Capability.check_eq_error_iff.mp hr with h | ⟨-, h⟩ | ⟨-, -, h⟩
      · cases hsize.symm.trans h
      · cases hscale.symm.trans h
      · exact Capability.role_of_checkUsage h
    have hstage : 2 < reason.stage :=
      Nat.lt_of_lt_of_le (Capability.two_lt_stage_of_role hrole) (hlatest c hc r hr)
    exact Capability.role_of_two_lt_stage hreason hstage

/-- SQL Server has sized bytes first and bytes without a size last, and neither may be a key. -/
theorem validate_closest_bytes :
    SqlServer.capabilities.supports .binary = true ∧
      SqlServer.capabilities.validate "hash" (.unsized .binary) ⟨true, false⟩ =
        .error (.kindNotSupported "hash" .binary "sqlserver" .notForPrimaryKey) ∧
      ∃ c, SqlServer.capabilities.IsClosest (.unsized .binary) ⟨true, false⟩ c ∧
        c.check (.unsized .binary) ⟨true, false⟩ = .error .notForPrimaryKey := by
  have hdeclared : SqlServer.capabilities.supports .binary = true := rfl
  have hrefused : SqlServer.capabilities.validate "hash" (.unsized .binary) ⟨true, false⟩ =
      .error (.kindNotSupported "hash" .binary "sqlserver" .notForPrimaryKey) := rfl
  obtain ⟨last, reason, hlast, hreason, he, hiff, -⟩ := validate_closest_iff hdeclared hrefused
  cases hlast
  cases he
  refine ⟨hdeclared, hrefused, hiff.mpr ⟨by decide, .notForPrimaryKey, hreason, ?_⟩⟩
  intro c hc r hr
  have hentries : SqlServer.capabilities.entriesFor .binary =
      [(Capability.of .binary).upToSize 8000, .of .binary] := rfl
  change c ∈ SqlServer.capabilities.entriesFor .binary at hc
  rw [hentries, List.mem_cons, List.mem_singleton] at hc
  rcases hc with rfl | rfl
  · cases hr
    decide
  · cases hr
    decide

/-- A decimal with a scale has an entry that only refuses identity, and the report is about the
scale: the entry behind it accepts identity and no scale. -/
theorem not_closest_of_scaledIdentity :
    ¬∀ (t : CapabilityTable) (column : String) (k : SizedKind) (usage : Usage) (e : DdlError),
      t.supports k.kind = true → t.validate column k usage = .error e →
      ∃ c reason, t.IsClosest k usage c ∧ c.check k usage = .error reason ∧
        e = .kindNotSupported column k.kind t.dialect reason := by
  intro h
  have hrefused : SqlServer.capabilities.validate "amount" (.decimal 10 2) ⟨true, true⟩ =
      .error (.kindNotSupported "amount" .decimal "sqlserver" (.scaleNotAccepted 2)) := rfl
  obtain ⟨c, reason, ⟨-, reason', hreason', hlatest⟩, hreason, he⟩ :=
    h SqlServer.capabilities "amount" (.decimal 10 2) ⟨true, true⟩ _ rfl hrefused
  cases he
  cases hreason.symm.trans hreason'
  have hstage : Rejection.stage .notForIdentity ≤ Rejection.stage (.scaleNotAccepted 2) :=
    hlatest (((Capability.of .decimal).upToSize 28).upToScale 28).forPrimaryKey (by decide) _ rfl
  exact absurd hstage (by decide)

end CapabilityTable

end SchemaDdl
