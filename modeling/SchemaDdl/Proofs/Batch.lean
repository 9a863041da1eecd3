import Mathlib.Data.List.TakeWhile
import SchemaDdl.Dialect.Sqlite
import SchemaDdl.Proofs.Settled
import SchemaDdl.Render

/-!
# Batches of changes

What may be run after a batch has stopped. `renderChanges_compositional` says that a batch renders
piece by piece: what follows a failure has no influence, and what follows a complete batch is
rendered as if it stood alone. So the statements are those of the changes before the first one that
does not render, and the failure is the one of that change.
-/

namespace SchemaDdl

variable {d : Dialect} {change : Change} {xs : List Change} {ss : List String}
  {parts : List (List String)} {e : DdlError} {f : RenderFailure}

/-! ## One more change in front -/

theorem renderChanges_cons_of_ok (h : change.render d = .ok ss) (rest : List Change) :
    renderChanges d (change :: rest) =
      ⟨ss ++ (renderChanges d rest).statements, (renderChanges d rest).failure.map (·.shift)⟩ := by
  rw [renderChanges, h]

theorem renderChanges_cons_of_error (h : change.render d = .error e) (rest : List Change) :
    renderChanges d (change :: rest) = ⟨[], some ⟨0, e⟩⟩ := by
  rw [renderChanges, h]

/-! ## One batch behind another -/

/-- The failure with `n` more changes in front of it. -/
def RenderFailure.behind (n : Nat) (f : RenderFailure) : RenderFailure :=
  { f with index := f.index + n }

/-- Nothing behind a failure is rendered. -/
theorem renderChanges_append_of_failure (h : (renderChanges d xs).failure = some f)
    (ys : List Change) : renderChanges d (xs ++ ys) = renderChanges d xs := by
  induction xs generalizing f with
  | nil => cases h
  | cons change rest ih =>
    rw [List.cons_append]
    cases hchange : change.render d with
    | error e =>
      rw [renderChanges_cons_of_error hchange, renderChanges_cons_of_error hchange]
    | ok ss =>
      rw [renderChanges_cons_of_ok hchange] at h
      obtain ⟨f', hf', -⟩ := Option.map_eq_some_iff.mp h
      rw [renderChanges_cons_of_ok hchange, renderChanges_cons_of_ok hchange, ih hf']

/-- Behind a complete batch, another one renders as it does alone. -/
theorem renderChanges_append_of_complete (h : (renderChanges d xs).failure = none)
    (ys : List Change) :
    renderChanges d (xs ++ ys) =
      ⟨(renderChanges d xs).statements ++ (renderChanges d ys).statements,
        (renderChanges d ys).failure.map (·.behind xs.length)⟩ := by
  induction xs with
  | nil =>
    have hbehind : RenderFailure.behind ([] : List Change).length = id := rfl
    rw [hbehind, Option.map_id]
    rfl
  | cons change rest ih =>
    cases hchange : change.render d with
    | error e =>
      rw [renderChanges_cons_of_error hchange] at h
      cases h
    | ok ss =>
      rw [renderChanges_cons_of_ok hchange] at h
      have hrest := ih (Option.map_eq_none_iff.mp h)
      rw [List.cons_append, renderChanges_cons_of_ok hchange, renderChanges_cons_of_ok hchange,
        hrest, Option.map_map, List.append_assoc]
      rfl

/-! ## The changes that render -/

/-- The longest beginning of a batch of which every change renders. -/
def renderable (d : Dialect) (changes : List Change) : List Change :=
  changes.takeWhile fun change => (change.render d).isOk

theorem renders_of_mem_renderable (h : change ∈ renderable d xs) :
    ∃ ss, change.render d = .ok ss := by
  have hok : (change.render d).isOk = true :=
    List.mem_takeWhile_imp (p := fun c : Change => (c.render d).isOk) h
  cases hr : change.render d with
  | ok ss => exact ⟨ss, rfl⟩
  | error e =>
    rw [hr] at hok
    cases hok

theorem exists_mapM_of_renders (h : ∀ change ∈ xs, ∃ ss, change.render d = .ok ss) :
    ∃ parts, xs.mapM (·.render d) = .ok parts := by
  cases hrun : xs.mapM (·.render d) with
  | ok parts => exact ⟨parts, rfl⟩
  | error e =>
    obtain ⟨before, change, after, rfl, -, hfails⟩ := mapM_eq_error_iff.mp hrun
    obtain ⟨ss, hss⟩ := h change (by simp)
    rw [hfails] at hss
    cases hss

theorem renderChanges_of_mapM_ok (h : xs.mapM (·.render d) = .ok parts) :
    renderChanges d xs = ⟨parts.flatten, none⟩ := by
  induction xs generalizing parts with
  | nil =>
    cases h
    rfl
  | cons change rest ih =>
    rw [List.mapM_cons] at h
    obtain ⟨ss, hchange, hrest⟩ := ok_of_bind_ok h
    obtain ⟨later, hlater, hparts⟩ := ok_of_bind_ok hrest
    cases hparts
    rw [renderChanges_cons_of_ok hchange, ih hlater]
    rfl

/-- A batch renders the changes up to the first that fails. -/
structure RendersInOrder (d : Dialect) (changes : List Change) : Prop where
  /-- The statements are those of the changes before any that fails, in order. -/
  statements : ∃ parts, (renderable d changes).mapM (·.render d) = .ok parts ∧
    (renderChanges d changes).statements = parts.flatten
  complete : (renderChanges d changes).failure = none ↔
    ∀ change ∈ changes, ∃ ss, change.render d = .ok ss
  /-- The failure is the one of the first change that does not render. -/
  failure : ∀ f, (renderChanges d changes).failure = some f →
    f.index = (renderable d changes).length ∧
      ∃ change, changes[f.index]? = some change ∧ change.render d = .error f.cause

/-- Either every change renders, or the first one that does not comes behind those that do. -/
theorem renderable_eq_or_split (d : Dialect) (changes : List Change) :
    renderable d changes = changes ∨
      ∃ change e rest, changes = renderable d changes ++ change :: rest ∧
        change.render d = .error e := by
  have hsplit : renderable d changes ++ changes.dropWhile (fun c => (c.render d).isOk) = changes :=
    List.takeWhile_append_dropWhile
  cases hrest : changes.dropWhile (fun c => (c.render d).isOk) with
  | nil =>
    rw [hrest, List.append_nil] at hsplit
    exact .inl hsplit
  | cons change rest =>
    rw [hrest] at hsplit
    have hfails : (change.render d).isOk = false := by
      have hhead := List.head?_dropWhile_not (fun c : Change => (c.render d).isOk) changes
      rw [hrest] at hhead
      simpa using hhead
    cases hchange : change.render d with
    | ok ss =>
      rw [hchange] at hfails
      cases hfails
    | error e => exact .inr ⟨change, e, rest, hsplit.symm, hchange⟩

theorem rendersInOrder_of_all (h : renderable d xs = xs)
    (hparts : (renderable d xs).mapM (·.render d) = .ok parts) : RendersInOrder d xs := by
  have hrun : renderChanges d xs = ⟨parts.flatten, none⟩ := renderChanges_of_mapM_ok (h ▸ hparts)
  constructor
  · exact ⟨parts, hparts, by rw [hrun]⟩
  · rw [hrun]
    refine iff_of_true rfl fun change hmem => ?_
    rw [← h] at hmem
    exact renders_of_mem_renderable hmem
  · rw [hrun]
    exact fun f hf => nomatch hf

theorem rendersInOrder_of_split {rest : List Change}
    (hsplit : xs = renderable d xs ++ change :: rest) (hchange : change.render d = .error e)
    (hparts : (renderable d xs).mapM (·.render d) = .ok parts) : RendersInOrder d xs := by
  have hbegin : renderChanges d (renderable d xs) = ⟨parts.flatten, none⟩ :=
    renderChanges_of_mapM_ok hparts
  have hcomplete : (renderChanges d (renderable d xs)).failure = none := by rw [hbegin]
  have hrun : renderChanges d xs =
      ⟨parts.flatten, some ⟨(renderable d xs).length, e⟩⟩ := by
    calc renderChanges d xs = renderChanges d (renderable d xs ++ change :: rest) := by
          rw [← hsplit]
      _ = ⟨parts.flatten, some ⟨(renderable d xs).length, e⟩⟩ := by
          rw [renderChanges_append_of_complete hcomplete, hbegin,
            renderChanges_cons_of_error hchange]
          simp [RenderFailure.behind]
  have hat : ∀ before, xs = before ++ change :: rest → xs[before.length]? = some change := by
    rintro before rfl
    simp
  constructor
  · exact ⟨parts, hparts, by rw [hrun]⟩
  · rw [hrun]
    refine iff_of_false (by simp) fun hall => ?_
    obtain ⟨ss, hss⟩ := hall change (by rw [hsplit]; simp)
    rw [hchange] at hss
    cases hss
  · rw [hrun]
    rintro f ⟨⟩
    exact ⟨rfl, change, hat _ hsplit, hchange⟩

theorem rendersInOrder (d : Dialect) (changes : List Change) : RendersInOrder d changes := by
  obtain ⟨parts, hparts⟩ : ∃ parts, (renderable d changes).mapM (·.render d) = .ok parts :=
    exists_mapM_of_renders fun _ => renders_of_mem_renderable
  rcases renderable_eq_or_split d changes with hall | ⟨change, e, rest, hsplit, hchange⟩
  · exact rendersInOrder_of_all hall hparts
  · exact rendersInOrder_of_split hsplit hchange hparts

/-- Batches render piece by piece. Whatever is put behind a batch that fails, its outcome stays.
What is put behind a complete one adds its own statements and its own failure. -/
theorem renderChanges_compositional (d : Dialect) :
    (∀ xs ys : List Change, (renderChanges d xs).failure ≠ none →
      renderChanges d (xs ++ ys) = renderChanges d xs) ∧
    (∀ xs ys : List Change, (renderChanges d xs).failure = none →
      renderChanges d (xs ++ ys) =
        ⟨(renderChanges d xs).statements ++ (renderChanges d ys).statements,
          (renderChanges d ys).failure.map (·.behind xs.length)⟩) ∧
    ∀ changes : List Change, RendersInOrder d changes := by
  refine ⟨fun xs ys h => ?_, fun xs ys h => renderChanges_append_of_complete h ys,
    rendersInOrder d⟩
  obtain ⟨f, hf⟩ := Option.ne_none_iff_exists'.mp h
  exact renderChanges_append_of_failure hf ys

/-- A batch that stops at its second change. -/
def orderCleanup : List Change :=
  [.dropTable "drafts", .dropPrimaryKey "orders" "PK_orders"]

theorem renderChanges_orderCleanup :
    (renderChanges Sqlite.dialect orderCleanup).failure ≠ none ∧
      renderChanges Sqlite.dialect (orderCleanup ++ [.dropTable "orders"]) =
        ⟨["DROP TABLE \"drafts\""],
          some ⟨1, .unsupported .dropPrimaryKey "sqlite"⟩⟩ ∧
      renderChanges Sqlite.dialect (.dropTable "carts" :: orderCleanup) =
        ⟨["DROP TABLE \"carts\"", "DROP TABLE \"drafts\""],
          some ⟨2, .unsupported .dropPrimaryKey "sqlite"⟩⟩ := by
  have hstopped : (renderChanges Sqlite.dialect orderCleanup).failure ≠ none :=
    Option.some_ne_none _
  have hcomplete : (renderChanges Sqlite.dialect [.dropTable "carts"]).failure = none := rfl
  obtain ⟨hkeeps, hadds, -⟩ := renderChanges_compositional Sqlite.dialect
  exact ⟨hstopped, hkeeps orderCleanup [.dropTable "orders"] hstopped,
    hadds [.dropTable "carts"] orderCleanup hcomplete⟩

end SchemaDdl
