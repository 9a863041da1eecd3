import Mathlib.Data.List.Forall2
import SchemaDdl.Proofs.Lexical.Token

/-!
# Texts written as tokens

`Written names ts s` says that the text `s` is the tidy tokens `ts`. Statements are put together
from names, strings and bare words, where a bare word always stands between two quoted tokens:
`Written.glue` is that one step, and everything else follows from it.
-/

namespace SchemaDdl.Lexical

open Text (Quote)

/-! ## Bare words -/

/-- A calm character other than the dash. -/
def Plain (c : Char) : Prop := Calm c ∧ c ≠ '-'

instance : DecidablePred Plain := fun _ => inferInstanceAs (Decidable (_ ∧ _))

/-- A text that keeps its neighbours apart: not empty, and of plain characters only. -/
structure Word (s : String) : Prop where
  ne_nil : s.toList ≠ []
  plain : ∀ c ∈ s.toList, Plain c

theorem word_iff_all {s : String} : Word s ↔ s.toList ≠ [] ∧ s.toList.all (Plain ·) := by
  rw [List.all_eq_true]
  exact ⟨fun h => ⟨h.ne_nil, fun c hc => decide_eq_true (h.plain c hc)⟩,
    fun h => ⟨h.1, fun c hc => of_decide_eq_true (h.2 c hc)⟩⟩

instance (s : String) : Decidable (Word s) := decidable_of_iff' _ word_iff_all

theorem Word.append {s r : String} (hs : Word s) (hr : Word r) : Word (s ++ r) where
  ne_nil := by simp [hs.ne_nil]
  plain := by
    intro c hc
    rw [String.toList_append, List.mem_append] at hc
    rcases hc with hc | hc
    · exact hs.plain c hc
    · exact hr.plain c hc

/-- The tokens of a text without quotes. -/
def bareTokens (s : String) : List Token := s.toList.map .bare

theorem source_bareTokens (s : String) : source (bareTokens s) = s.toList := by
  simp [source, bareTokens, List.flatMap_map, Token.source]

theorem source_append (ts us : List Token) : source (ts ++ us) = source ts ++ source us :=
  List.flatMap_append

/-! ## Written texts -/

/-- The text is these tokens, which are tidy. -/
structure Written (names : Quote) (ts : List Token) (s : String) : Prop where
  source : s.toList = source ts
  tidy : Tidy names ts

variable {names : Quote} {ts us : List Token} {s r k : String}

theorem separate_plain_right {c : Char} (hc : Plain c) (t : Token) : Separate t (.bare c) := by
  cases t with
  | quoted q x => exact trivial
  | bare d => exact fun h => hc.2 h.2

theorem separate_plain_left {c : Char} (hc : Plain c) (t : Token) : Separate (.bare c) t := by
  cases t with
  | quoted q x => exact trivial
  | bare d => exact fun h => hc.2 h.1

theorem plain_of_mem_bareTokens (hk : Word k) {t : Token} (ht : t ∈ bareTokens k) :
    ∃ c, Plain c ∧ t = .bare c := by
  obtain ⟨c, hc, rfl⟩ := List.mem_map.mp ht
  exact ⟨c, hk.plain c hc, rfl⟩

theorem isChain_map_bare {cs : List Char} (h : ∀ c ∈ cs, Plain c) :
    (cs.map Token.bare).IsChain Separate := by
  induction cs with
  | nil => exact .nil
  | cons c rest ih =>
    apply (ih fun d hd => h d (by simp [hd])).cons
    intro t _
    exact separate_plain_left (h c (by simp)) t

theorem tidy_bareTokens (hk : Word k) : Tidy names (bareTokens k) where
  calm := by
    intro t ht
    obtain ⟨c, hc, rfl⟩ := plain_of_mem_bareTokens hk ht
    exact hc.1
  separate := isChain_map_bare hk.plain

theorem Tidy.glue (h : Tidy names ts) (hk : Word k) (h' : Tidy names us) :
    Tidy names (ts ++ bareTokens k ++ us) where
  calm := by
    intro t ht
    rcases List.mem_append.mp ht with ht | ht
    · rcases List.mem_append.mp ht with ht | ht
      · exact h.calm t ht
      · exact (tidy_bareTokens hk).calm t ht
    · exact h'.calm t ht
  separate := by
    have hne : bareTokens k ≠ [] := by simpa [bareTokens] using hk.ne_nil
    -- Only the two seams are new, and each has a character of the word on one side.
    rw [List.isChain_append, List.isChain_append, List.getLast?_append_of_ne_nil _ hne]
    refine ⟨⟨h.separate, isChain_map_bare hk.plain, ?_⟩, h'.separate, ?_⟩
    · intro t _ u hu
      obtain ⟨c, hc, rfl⟩ := plain_of_mem_bareTokens hk (List.mem_of_mem_head? hu)
      exact separate_plain_right hc t
    · intro t ht u _
      obtain ⟨c, hc, rfl⟩ := plain_of_mem_bareTokens hk (List.mem_of_mem_getLast? ht)
      exact separate_plain_left hc u

namespace Written

theorem nil : Written names [] "" := ⟨rfl, ⟨by simp, .nil⟩⟩

theorem word (hk : Word k) : Written names (bareTokens k) k :=
  ⟨(source_bareTokens k).symm, tidy_bareTokens hk⟩

theorem dash : Written names [.bare '-'] "-" where
  source := rfl
  tidy := ⟨by simp [Token.IsCalm, Calm], .singleton _⟩

theorem quoted {q : Quote} (hq : q = .single ∨ q = names) (text : String) :
    Written names [.quoted q text.toList] (q.encode text) where
  source := by simp [Lexical.source, Token.source]
  tidy := ⟨by simpa [Token.IsCalm] using hq, .singleton _⟩

/-- A word between two texts keeps their tokens apart. -/
theorem glue (h : Written names ts s) (hk : Word k) (h' : Written names us r) :
    Written names (ts ++ bareTokens k ++ us) (s ++ k ++ r) where
  source := by
    simp only [String.toList_append, h.source, h'.source, source_append, source_bareTokens]
  tidy := h.tidy.glue hk h'.tidy

theorem cons (hk : Word k) (h : Written names us r) :
    Written names (bareTokens k ++ us) (k ++ r) := by
  simpa using nil.glue hk h

/-- Scanning takes a written text apart into its tokens. -/
theorem tokens?_eq (hn : names = .double ∨ names = .bracket) (h : Written names ts s) :
    tokens? names s.toList = some ts := by
  rw [h.source]
  exact tokens?_source hn h.tidy

end Written

end SchemaDdl.Lexical
