import SchemaDdl.Dialect.Basic

/-!
# Outcomes that a condition settles

Rendering goes from left to right and stops at the first error. `Settled r p` says of one such run
that it succeeds when `p` holds and is refused when it does not, where a refusal is one of the four
errors that a dialect may raise while it renders. A run over parts is settled by the conditions of
its parts together.
-/

namespace SchemaDdl

/-- The errors with which a dialect turns a change down: they concern the operation, a literal, a
sentinel or a precondition, never a kind, a label or a name. -/
def DdlError.IsRefusal : DdlError → Prop
  | .unsupported .. | .unmappedLiteral .. | .unknownSentinel .. | .precondition _ => True
  | .unmappedKind .. | .labelTooLong .. | .kindNotSupported .. | .unknownDialect _ => False

theorem exists_ok_bind {α β : Type} {r : Except DdlError α} {f : α → Except DdlError β}
    (hr : ∃ a, r = .ok a) (hf : ∀ a, ∃ b, f a = .ok b) : ∃ b, (r >>= f) = .ok b := by
  obtain ⟨a, rfl⟩ := hr
  exact hf a

theorem ok_of_bind_ok {α β : Type} {r : Except DdlError α} {f : α → Except DdlError β} {b : β}
    (h : (r >>= f) = .ok b) : ∃ a, r = .ok a ∧ f a = .ok b := by
  cases r with
  | error e => cases h
  | ok a => exact ⟨a, rfl, h⟩

theorem exists_error_iff {α : Type} {r : Except DdlError α} :
    (∃ e, r = .error e) ↔ ¬∃ a, r = .ok a := by
  cases r <;> simp

/-- A list runs through exactly if every item does, and gives their results in order. -/
theorem mapM_eq_ok_iff {α β : Type} {f : α → Except DdlError β} {as : List α} {bs : List β} :
    as.mapM f = .ok bs ↔ as.map f = bs.map .ok := by
  induction as generalizing bs with
  | nil => cases bs <;> simp [pure, Except.pure]
  | cons a rest ih =>
    rw [List.mapM_cons, List.map_cons]
    constructor
    · intro h
      obtain ⟨b, hb, hrest⟩ := ok_of_bind_ok h
      obtain ⟨later, hlater, hbs⟩ := ok_of_bind_ok hrest
      cases hbs
      rw [List.map_cons, hb, ih.mp hlater]
    · intro h
      cases bs with
      | nil => cases h
      | cons b later =>
        obtain ⟨hb, hlater⟩ := List.cons.inj h
        rw [hb, ih.mpr hlater]
        rfl

theorem exists_mem_of_mapM_ok {α β : Type} {f : α → Except DdlError β} {as : List α} {bs : List β}
    (h : as.mapM f = .ok bs) {a : α} (ha : a ∈ as) : ∃ b ∈ bs, f a = .ok b := by
  have hmem : f a ∈ as.map f := List.mem_map_of_mem ha
  rw [mapM_eq_ok_iff.mp h] at hmem
  obtain ⟨b, hb, hf⟩ := List.mem_map.mp hmem
  exact ⟨b, hb, hf.symm⟩

/-- A list fails exactly with the error of its first item that fails. -/
theorem mapM_eq_error_iff {α β : Type} {f : α → Except DdlError β} {as : List α} {e : DdlError} :
    as.mapM f = .error e ↔
      ∃ before a after, as = before ++ a :: after ∧ (∀ b ∈ before, ∃ y, f b = .ok y) ∧
        f a = .error e := by
  induction as with
  | nil => simp [pure, Except.pure]
  | cons a rest ih =>
    rw [List.mapM_cons]
    constructor
    · intro h
      cases ha : f a with
      | error e' =>
        rw [ha] at h
        cases h
        exact ⟨[], a, rest, rfl, by simp, ha⟩
      | ok y =>
        cases hrest : rest.mapM f with
        | ok later => rw [ha, hrest] at h; cases h
        | error e' =>
          rw [ha, hrest] at h
          cases h
          obtain ⟨before, a', after, rfl, hbefore, ha'⟩ := ih.mp hrest
          refine ⟨a :: before, a', after, rfl, ?_, ha'⟩
          intro b hb
          rcases List.mem_cons.mp hb with rfl | hb
          · exact ⟨y, ha⟩
          · exact hbefore b hb
    · rintro ⟨before, a', after, hsplit, hbefore, ha'⟩
      cases before with
      | nil =>
        obtain ⟨rfl, rfl⟩ := List.cons.inj hsplit
        rw [ha']
        rfl
      | cons b before =>
        obtain ⟨rfl, rfl⟩ := List.cons.inj hsplit
        obtain ⟨y, hy⟩ := hbefore a (by simp)
        have hrest := ih.mpr ⟨before, a', after, rfl, fun c hc => hbefore c (by simp [hc]), ha'⟩
        rw [hy, hrest]
        rfl

/-- The run succeeds where the condition holds, and is refused where it does not. -/
def Settled {α : Type} (r : Except DdlError α) (p : Prop) : Prop :=
  match r with
  | .ok _ => p
  | .error e => ¬p ∧ e.IsRefusal

namespace Settled

variable {α β : Type} {r : Except DdlError α} {p q : Prop}

theorem of_ok {a : α} (hp : p) : Settled (.ok a : Except DdlError α) p := hp

theorem of_error {e : DdlError} (hp : ¬p) (he : e.IsRefusal) :
    Settled (.error e : Except DdlError α) p :=
  ⟨hp, he⟩

theorem congr (h : Settled r p) (hpq : p ↔ q) : Settled r q := by
  rw [← hpq]
  exact h

theorem of_eq_ok {a : α} (h : r = .ok a) (hp : p) : Settled r p := by
  rw [h]
  exact hp

theorem bind {f : α → Except DdlError β} (hr : Settled r p) (hf : ∀ a, Settled (f a) q) :
    Settled (r >>= f) (p ∧ q) := by
  cases r with
  | ok a => exact (hf a).congr (and_iff_right hr).symm
  | error e => exact ⟨fun h => hr.1 h.1, hr.2⟩

/-- A first step that succeeds anyway adds no condition. -/
theorem ok_bind {f : α → Except DdlError β} {a : α} (hr : r = .ok a) (hf : Settled (f a) p) :
    Settled (r >>= f) p := by
  rw [hr]
  exact hf

/-- A last step that succeeds anyway adds no condition. -/
theorem bind_ok {f : α → Except DdlError β} (hr : Settled r p) (hf : ∀ a, ∃ b, f a = .ok b) :
    Settled (r >>= f) p := by
  have h : Settled (r >>= f) (p ∧ True) := by
    apply bind hr
    intro a
    obtain ⟨b, hb⟩ := hf a
    exact of_eq_ok hb trivial
  exact h.congr (and_iff_left trivial)

theorem map {f : α → β} (hr : Settled r p) : Settled (r.map f) p := by
  cases r with
  | ok a => exact hr
  | error e => exact hr

/-- A list is settled by the conditions of its items together. -/
theorem mapM {f : α → Except DdlError β} {P : α → Prop} {xs : List α}
    (h : ∀ x ∈ xs, Settled (f x) (P x)) : Settled (xs.mapM f) (∀ x ∈ xs, P x) := by
  induction xs with
  | nil => exact of_eq_ok List.mapM_nil (by simp)
  | cons x rest ih =>
    rw [List.mapM_cons]
    have hx : Settled (f x) (P x) := h x (by simp)
    have hrest : Settled (rest.mapM f) (∀ y ∈ rest, P y) :=
      ih fun y hy => h y (by simp [hy])
    have hboth := hx.bind fun b => hrest.bind_ok fun bs => ⟨b :: bs, rfl⟩
    exact hboth.congr (by simp)

theorem isOk_iff (h : Settled r p) : (∃ a, r = .ok a) ↔ p := by
  cases r with
  | ok a => exact iff_of_true ⟨a, rfl⟩ h
  | error e => exact iff_of_false (by simp) h.1

theorem refusal {e : DdlError} (h : Settled r p) (he : r = .error e) : ¬p ∧ e.IsRefusal := by
  rw [he] at h
  exact h

end Settled

end SchemaDdl
