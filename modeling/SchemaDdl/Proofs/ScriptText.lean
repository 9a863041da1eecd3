import SchemaDdl.Plan
import SchemaDdl.Proofs.Lexical.Change

/-!
# Taking a script apart

The text of a script is its statements with a semicolon and a line break behind each, and nothing
marks those semicolons as the ones that end a statement. Cutting at every semicolon outside quotes
still gives the statements back, since no statement has one there and every statement closes its
quotes.
-/

namespace SchemaDdl

namespace Lexical

open Text (Quote)

/-! ## Cutting -/

/-- Puts a token in front of the first piece. -/
def prepend? (t : Token) : List (List Token) → Option (List (List Token))
  | [] => none
  | piece :: later => some ((t :: piece) :: later)

/-- Cuts tokens at every semicolon outside quotes together with the line break behind it. There is
no result if the line break is missing or if tokens are left over. -/
def cut? : List Token → Option (List (List Token))
  | [] => some []
  | t :: rest =>
    if t = .bare ';' then
      match rest with
      | .bare '\n' :: later => (cut? later).map ([] :: ·)
      | _ => none
    else (cut? rest).bind (prepend? t)

/-- The statements of a text. -/
def statements? (names : Quote) (text : String) : Option (List String) :=
  ((tokens? names text.toList).bind cut?).map (·.map fun ts => String.ofList (source ts))

theorem cut?_end (later : List Token) :
    cut? (.bare ';' :: .bare '\n' :: later) = (cut? later).map ([] :: ·) :=
  rfl

theorem cut?_cons {t : Token} (ht : t ≠ .bare ';') (rest : List Token) :
    cut? (t :: rest) = (cut? rest).bind (prepend? t) := by
  rw [cut?.eq_def]
  exact if_neg ht

theorem cut?_append {ts : List Token} (h : .bare ';' ∉ ts) (us : List Token) :
    cut? (ts ++ .bare ';' :: .bare '\n' :: us) = (cut? us).map (ts :: ·) := by
  induction ts with
  | nil => exact cut?_end us
  | cons t rest ih =>
    have ht : t ≠ .bare ';' := fun heq => h (by simp [heq])
    have hrest : .bare ';' ∉ rest := fun hmem => h (by simp [hmem])
    rw [List.cons_append, cut?_cons ht, ih hrest]
    cases cut? us <;> rfl

/-! ## Statements that may be joined -/

/-- The text closes its quotes and has no semicolon and no comment outside them. -/
def Contained (names : Quote) (s : String) : Prop :=
  ∃ ts, tokens? names s.toList = some ts ∧ .bare ';' ∉ ts ∧
    ¬[.bare '-', .bare '-'] <:+: ts ∧ ¬[.bare '/', .bare '*'] <:+: ts

variable {names : Quote} {ts : List Token} {s : String}

theorem Tidy.not_mem_bare (h : Tidy names ts) {c : Char} (hc : ¬Calm c) : .bare c ∉ ts :=
  fun hmem => hc (h.calm _ hmem)

theorem Written.contained (hn : names = .double ∨ names = .bracket) (h : Written names ts s) :
    Contained names s := by
  refine ⟨ts, h.tokens?_eq hn, h.tidy.not_mem_bare (by decide), ?_, ?_⟩
  · rintro ⟨before, after, rfl⟩
    have hchain := h.tidy.separate
    rw [List.isChain_append, List.isChain_append] at hchain
    exact hchain.1.2.1.rel ⟨rfl, rfl⟩
  · intro hrun
    exact h.tidy.not_mem_bare (c := '/') (by decide) (hrun.subset (by simp))

/-- The beginning of a script up to the end of its first statement. -/
theorem tokens?_statement (hn : names = .double ∨ names = .bracket) (h : Written names ts s)
    (later : List Char) :
    tokens? names (s.toList ++ ';' :: '\n' :: later) =
      (tokens? names later).map (ts ++ .bare ';' :: .bare '\n' :: ·) := by
  have hcloses : Closes names (';' :: '\n' :: later) := by
    intro q hq
    rw [List.head?_cons]
    rcases hn with rfl | rfl <;> rcases hq with rfl | rfl <;> decide
  have hend : opened? names ';' = none ∧ opened? names '\n' = none := by
    rcases hn with rfl | rfl <;> decide
  rw [h.source, tokens?_source_append hn h.tidy hcloses, tokens?_bare hend.1, tokens?_bare hend.2,
    Option.map_map, Option.map_map]
  rfl

theorem statements?_join (hn : names = .double ∨ names = .bracket) {ss : List String}
    (h : ∀ s ∈ ss, ∃ ts, Written names ts s) :
    statements? names (String.join (ss.map (· ++ ";\n"))) = some ss := by
  induction ss with
  | nil => simp [statements?, tokens?, cut?]
  | cons s rest ih =>
    obtain ⟨ts, hs⟩ := h s (by simp)
    have hrest := ih fun r hr => h r (by simp [hr])
    -- The text is the first statement, its end, and the text of the other statements.
    have htext : (String.join ((s :: rest).map (· ++ ";\n"))).toList =
        s.toList ++ ';' :: '\n' :: (String.join (rest.map (· ++ ";\n"))).toList := by
      simp [String.toList_append]
    rw [statements?, htext, tokens?_statement hn hs]
    rw [statements?, Option.map_eq_some_iff] at hrest
    obtain ⟨pieces, hpieces, hsources⟩ := hrest
    obtain ⟨us, hus, hcut⟩ := Option.bind_eq_some_iff.mp hpieces
    have hend : .bare ';' ∉ ts := hs.tidy.not_mem_bare (by decide)
    rw [hus, Option.map_some, Option.bind_some, cut?_append hend, hcut]
    simp [hsources, ← hs.source]

end Lexical

/-! ## Scripts of plans -/

open Lexical

theorem written_of_mem_renderChanges (b : Builtin) (changes : List Change) :
    ∀ s ∈ (renderChanges b.dialect changes).statements, ∃ ts, Written b.dialect.quote ts s := by
  induction changes with
  | nil => simp [renderChanges]
  | cons change rest ih =>
    rw [renderChanges]
    split
    · simp
    · next ss hss =>
      intro s hs
      rcases List.mem_append.mp hs with hs | hs
      · obtain ⟨ts, -, hw, -⟩ := alike_of_render b hss s hs
        exact ⟨ts, hw⟩
      · exact ih s hs

theorem written_of_mem_script (b : Builtin) (p : Plan) (table : CapabilityTable) :
    ∀ s ∈ (p.render b.dialect table).script.statements, ∃ ts, Written b.dialect.quote ts s := by
  unfold Plan.render
  split
  · simp
  · exact written_of_mem_renderChanges b p.changes

/-- The text of a script gives back its statements, also where rendering stopped early, and none of
them ends between quotes or begins a comment. -/
theorem Plan.statements?_sql (b : Builtin) (p : Plan) (table : CapabilityTable) :
    statements? b.dialect.quote (p.render b.dialect table).script.sql =
        some (p.render b.dialect table).script.statements ∧
      ∀ s ∈ (p.render b.dialect table).script.statements, Contained b.dialect.quote s := by
  have hquote := (scannable_builtin b).quote
  have hwritten := written_of_mem_script b p table
  refine ⟨statements?_join hquote hwritten, fun s hs => ?_⟩
  obtain ⟨ts, hw⟩ := hwritten s hs
  exact hw.contained hquote

end SchemaDdl
