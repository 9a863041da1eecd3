import Mathlib.Data.List.Chain
import Mathlib.Tactic.SplitIfs
import SchemaDdl.Text.Quoted

/-!
# Tokens of a script

A reference scanner for scripts. Outside quotes every character is a token of its own; a single
quote or the opening delimiter of an identifier begins a quoted token, which ends at the first
closing delimiter that is not written twice. `source_of_tokens?` says that scanning loses nothing,
and `tokens?_source` that it takes every tidy sequence of tokens apart as it was put together.
-/

namespace SchemaDdl.Lexical

open Text (Quote)

/-- One character outside quotes, or a quoted token by its content. -/
inductive Token where
  | bare (c : Char)
  | quoted (q : Quote) (content : List Char)
deriving DecidableEq, Repr

namespace Token

/-- The token as it is written. -/
def source : Token → List Char
  | bare c => [c]
  | quoted q content => q.opening :: (q.escape content ++ [q.closing])

/-- The token with its content taken out. -/
def mask : Token → Token
  | bare c => bare c
  | quoted q _ => quoted q []

end Token

/-- The text that tokens are written as. -/
def source (ts : List Token) : List Char := ts.flatMap Token.source

/-- The quotes that a character opens where identifiers stand in `names`. -/
def opened? (names : Quote) (c : Char) : Option Quote :=
  if c = '\'' then some .single else if c = names.opening then some names else none

/-! ## Reading a quoted token loses nothing -/

theorem escape_of_readContent? {q : Quote} {cs content after : List Char}
    (h : q.readContent? cs = some (content, after)) :
    q.escape content ++ q.closing :: after = cs := by
  fun_induction q.readContent? cs generalizing content with
  | case1 => cases h
  | case2 => cases h; rfl
  | case3 => cases h
  | case4 rest ih =>
    obtain ⟨⟨text, after'⟩, hread, heq⟩ := Option.map_eq_some_iff.mp h
    cases heq
    simp [Quote.escape, ih hread]
  | case5 d rest hd => cases h; rfl
  | case6 c d rest hc ih =>
    obtain ⟨⟨text, after'⟩, hread, heq⟩ := Option.map_eq_some_iff.mp h
    cases heq
    simp [Quote.escape, hc, ih hread]

/-- The tokens of a text, or none if a quoted token does not end. -/
def tokens? (names : Quote) (cs : List Char) : Option (List Token) :=
  match cs with
  | [] => some []
  | c :: rest =>
    match opened? names c with
    | none => (tokens? names rest).map (.bare c :: ·)
    | some q =>
      match _h : q.readContent? rest with
      | none => none
      | some (content, after) => (tokens? names after).map (.quoted q content :: ·)
termination_by cs.length
decreasing_by
  · simp
  · have := congrArg List.length (escape_of_readContent? ‹_›)
    simp only [List.length_append, List.length_cons] at this ⊢
    omega

theorem tokens?_bare {names : Quote} {c : Char} (hc : opened? names c = none) (rest : List Char) :
    tokens? names (c :: rest) = (tokens? names rest).map (.bare c :: ·) := by
  rw [tokens?, hc]

theorem opening_of_opened? {names q : Quote} {c : Char} (h : opened? names c = some q) :
    c = q.opening := by
  unfold opened? at h
  split_ifs at h with hs hn
  · cases h; exact hs
  · cases h; exact hn

/-- Scanning loses nothing: the tokens, written again, are the text. -/
theorem source_of_tokens? {names : Quote} {cs : List Char} {ts : List Token}
    (h : tokens? names cs = some ts) : source ts = cs := by
  fun_induction tokens? names cs generalizing ts with
  | case1 => cases h; rfl
  | case2 c rest hc ih =>
    obtain ⟨us, hus, rfl⟩ := Option.map_eq_some_iff.mp h
    simpa [source, Token.source] using ih hus
  | case3 => cases h
  | case4 c rest q hc content after hread ih =>
    obtain ⟨us, hus, rfl⟩ := Option.map_eq_some_iff.mp h
    have hsource : source us = after := ih hus
    rw [opening_of_opened? hc, ← escape_of_readContent? hread, ← hsource]
    simp [source, Token.source]

/-! ## Tidy sequences -/

/-- Characters that a dialect writes outside quotes: never a delimiter, a semicolon or a slash. -/
def Calm (c : Char) : Prop := c ∉ ['\'', '"', '[', ']', ';', '/']

instance : DecidablePred Calm := fun _ => inferInstanceAs (Decidable (_ ∉ _))

/-- What a token may be: a calm character, a string or an identifier. -/
def Token.IsCalm (names : Quote) : Token → Prop
  | .bare c => Calm c
  | .quoted q _ => q = .single ∨ q = names

/-- What may stand side by side: no two quoted tokens and no two dashes. -/
def Separate : Token → Token → Prop
  | .quoted .., .quoted .. => False
  | .bare c, .bare d => ¬(c = '-' ∧ d = '-')
  | _, _ => True

/-- Tokens that can be told apart where they are written one behind another. -/
structure Tidy (names : Quote) (ts : List Token) : Prop where
  calm : ∀ t ∈ ts, t.IsCalm names
  separate : ts.IsChain Separate

variable {names : Quote} {ts : List Token}

theorem Tidy.tail {t : Token} (h : Tidy names (t :: ts)) : Tidy names ts :=
  ⟨fun u hu => h.calm u (by simp [hu]), h.separate.tail⟩

theorem ne_delimiter_of_calm {q : Quote} (hq : q = .single ∨ q = .double ∨ q = .bracket) {c : Char}
    (hc : Calm c) : c ≠ q.opening ∧ c ≠ q.closing := by
  constructor
  all_goals
    rintro rfl
    revert hc
    rcases hq with rfl | rfl | rfl <;> decide

theorem opened?_of_calm (hn : names = .double ∨ names = .bracket) {c : Char} (hc : Calm c) :
    opened? names c = none := by
  have hsingle : c ≠ '\'' := (ne_delimiter_of_calm (.inl rfl) hc).1
  have hnames : c ≠ names.opening := (ne_delimiter_of_calm (.inr hn) hc).1
  rw [opened?, if_neg hsingle, if_neg hnames]

theorem opened?_opening (hn : names = .double ∨ names = .bracket) {q : Quote}
    (hq : q = .single ∨ q = names) : opened? names q.opening = some q := by
  rcases hn with rfl | rfl <;> rcases hq with rfl | rfl <;> decide

/-- What stands behind tidy tokens does not prolong a quoted one. -/
def Closes (names : Quote) (after : List Char) : Prop :=
  ∀ q, q = .single ∨ q = names → after.head? ≠ some q.closing

theorem Tidy.head?_source_ne (hn : names = .double ∨ names = .bracket) {q : Quote}
    {content after : List Char} (h : Tidy names (.quoted q content :: ts))
    (hafter : Closes names after) : (source ts ++ after).head? ≠ some q.closing := by
  have hq : q = .single ∨ q = names := h.calm (.quoted q content) (by simp)
  cases ts with
  | nil => simpa [source] using hafter q hq
  | cons t rest =>
    cases t with
    | quoted q' content' => exact absurd h.separate.rel id
    | bare c =>
      have hc : Calm c := h.calm (.bare c) (by simp)
      have hstyle : q = .single ∨ q = .double ∨ q = .bracket :=
        hq.imp_right fun (hnames : q = names) => hnames ▸ hn
      have hne : c ≠ q.closing := (ne_delimiter_of_calm hstyle hc).2
      simpa [source, Token.source] using hne

/-- Tidy tokens are read back as they are, whatever follows. -/
theorem tokens?_source_append (hn : names = .double ∨ names = .bracket) (h : Tidy names ts)
    {after : List Char} (hafter : Closes names after) :
    tokens? names (source ts ++ after) = (tokens? names after).map (ts ++ ·) := by
  induction ts with
  | nil => simp [source]
  | cons t rest ih =>
    have hrest : tokens? names (source rest ++ after) =
        (tokens? names after).map (rest ++ ·) := ih h.tail
    cases t with
    | bare c =>
      have hc : Calm c := h.calm (.bare c) (by simp)
      have hsource : source (.bare c :: rest) ++ after = c :: (source rest ++ after) := rfl
      rw [hsource, tokens?_bare (opened?_of_calm hn hc), hrest, Option.map_map]
      rfl
    | quoted q content =>
      have hq : q = .single ∨ q = names := h.calm (.quoted q content) (by simp)
      have hsource : source (.quoted q content :: rest) ++ after =
          q.opening :: (q.escape content ++ q.closing :: (source rest ++ after)) := by
        simp [source, Token.source]
      have hread := q.readContent?_escape content _ (h.head?_source_ne hn hafter)
      rw [hsource, tokens?, opened?_opening hn hq]
      simp only
      split
      · next hnone => rw [hread] at hnone; cases hnone
      · next content' after' hsome =>
        rw [hread] at hsome
        cases hsome
        simp [hrest, Function.comp_def]

theorem tokens?_source (hn : names = .double ∨ names = .bracket) (h : Tidy names ts) :
    tokens? names (source ts) = some ts := by
  have hcloses : Closes names [] := by simp [Closes]
  simpa [tokens?] using tokens?_source_append hn h hcloses

end SchemaDdl.Lexical
