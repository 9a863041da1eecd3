import SchemaDdl.Error
import SchemaDdl.Proofs.Lexical.Written

/-!
# Texts that differ inside quotes

`Alike names P P' s s'` says that two texts are the same but for the content of their quoted tokens,
and that the identifiers in them satisfy `P` and `P'`. `Paired` lifts a relation of this kind to
runs that may fail: both fail, or both succeed with related results.
-/

namespace SchemaDdl.Lexical

open Text (Quote)

/-- Every identifier among the tokens satisfies `P`. -/
def Named (names : Quote) (P : String → Prop) (ts : List Token) : Prop :=
  ∀ x, .quoted names x ∈ ts → P (String.ofList x)

/-- The texts differ in nothing but the content of quoted tokens. -/
def Alike (names : Quote) (P P' : String → Prop) (s s' : String) : Prop :=
  ∃ ts ts', Written names ts s ∧ Written names ts' s' ∧
    ts.map Token.mask = ts'.map Token.mask ∧ Named names P ts ∧ Named names P' ts'

variable {names : Quote} {P P' : String → Prop} {s s' r r' k : String}

namespace Named

variable {ts us : List Token}

theorem bareTokens (k : String) : Named names P (bareTokens k) := by
  intro x hx
  obtain ⟨c, _, hc⟩ := List.mem_map.mp hx
  cases hc

theorem append (h : Named names P ts) (h' : Named names P us) : Named names P (ts ++ us) := by
  intro x hx
  rcases List.mem_append.mp hx with hx | hx
  · exact h x hx
  · exact h' x hx

end Named

namespace Alike

theorem nil : Alike names P P' "" "" :=
  ⟨[], [], .nil, .nil, rfl, nofun, nofun⟩

theorem word (hk : Word k) : Alike names P P' k k :=
  ⟨_, _, .word hk, .word hk, rfl, .bareTokens k, .bareTokens k⟩

theorem name {n n' : String} (hn : P n) (hn' : P' n') :
    Alike names P P' (names.encode n) (names.encode n') := by
  refine ⟨_, _, .quoted (.inr rfl) n, .quoted (.inr rfl) n', rfl, ?_, ?_⟩
  · simpa [Named] using hn
  · simpa [Named] using hn'

theorem string (hn : names = .double ∨ names = .bracket) (t t' : String) :
    Alike names P P' (Text.stringLiteral t) (Text.stringLiteral t') := by
  have hne : names ≠ .single := by rcases hn with rfl | rfl <;> decide
  refine ⟨_, _, .quoted (.inl rfl) t, .quoted (.inl rfl) t', rfl, ?_, ?_⟩
  · simp [Named, hne]
  · simp [Named, hne]

theorem glue (h : Alike names P P' s s') (hk : Word k) (h' : Alike names P P' r r') :
    Alike names P P' (s ++ k ++ r) (s' ++ k ++ r') := by
  -- Without the word in between, two quoted tokens might meet and become one.
  obtain ⟨ts, ts', hw, hw', hmask, hp, hp'⟩ := h
  obtain ⟨us, us', hv, hv', hmask', hq, hq'⟩ := h'
  refine ⟨_, _, hw.glue hk hv, hw'.glue hk hv', ?_, ?_, ?_⟩
  · simp only [List.map_append, hmask, hmask']
  · exact (hp.append (.bareTokens k)).append hq
  · exact (hp'.append (.bareTokens k)).append hq'

theorem cons (hk : Word k) (h : Alike names P P' r r') :
    Alike names P P' (k ++ r) (k ++ r') := by
  simpa using nil.glue hk h

theorem snoc (h : Alike names P P' s s') (hk : Word k) :
    Alike names P P' (s ++ k) (s' ++ k) := by
  simpa using h.glue hk nil

/-- Lists of texts with a word between them. -/
theorem intercalate (hk : Word k) {xs xs' : List String}
    (h : List.Forall₂ (Alike names P P') xs xs') :
    Alike names P P' (k.intercalate xs) (k.intercalate xs') := by
  induction h with
  | nil => simpa using nil
  | @cons x x' rest rest' hx hrest ih =>
    cases hrest with
    | nil => simpa using hx
    | cons hy hrest' =>
      rw [String.intercalate_cons_cons, String.intercalate_cons_cons]
      exact hx.glue hk ih

end Alike

/-- Texts that may follow any others that are alike: they are empty or begin with a word. -/
def Trailing (names : Quote) (P P' : String → Prop) (s s' : String) : Prop :=
  ∀ r r', Alike names P P' r r' → Alike names P P' (r ++ s) (r' ++ s')

namespace Trailing

theorem nil : Trailing names P P' "" "" := by
  intro r r' h
  simpa using h

theorem word (hk : Word k) : Trailing names P P' k k :=
  fun _ _ h => h.snoc hk

theorem cons (hk : Word k) (h : Alike names P P' s s') :
    Trailing names P P' (k ++ s) (k ++ s') := by
  intro r r' hr
  rw [← String.append_assoc, ← String.append_assoc]
  exact hr.glue hk h

theorem glue (h : Trailing names P P' s s') (hk : Word k) (h' : Alike names P P' r r') :
    Trailing names P P' (s ++ k ++ r) (s' ++ k ++ r') := by
  intro t t' ht
  have hglue := (h t t' ht).glue hk h'
  simpa only [String.append_assoc] using hglue

end Trailing

/-! ## Runs side by side -/

/-- Both runs fail, or both succeed with related results. -/
inductive Paired {α α' : Type} (A : α → α' → Prop) :
    Except DdlError α → Except DdlError α' → Prop
  | ok {a : α} {a' : α'} (h : A a a') : Paired A (.ok a) (.ok a')
  | error (e e' : DdlError) : Paired A (.error e) (.error e')

namespace Paired

variable {α α' β β' : Type} {A : α → α' → Prop} {B : β → β' → Prop}
  {x : Except DdlError α} {x' : Except DdlError α'}

theorem bind {f : α → Except DdlError β} {f' : α' → Except DdlError β'} (h : Paired A x x')
    (hf : ∀ a a', A a a' → Paired B (f a) (f' a')) : Paired B (x >>= f) (x' >>= f') := by
  cases h with
  | ok ha => exact hf _ _ ha
  | error e e' => exact error e e'

theorem map {f : α → β} {f' : α' → β'} (h : Paired A x x')
    (hf : ∀ a a', A a a' → B (f a) (f' a')) : Paired B (x.map f) (x'.map f') := by
  cases h with
  | ok ha => exact ok (hf _ _ ha)
  | error e e' => exact error e e'

theorem imp {B : α → α' → Prop} (h : Paired A x x') (hB : ∀ a a', A a a' → B a a') :
    Paired B x x' := by
  cases h with
  | ok ha => exact ok (hB _ _ ha)
  | error e e' => exact error e e'

theorem mapM {γ γ' : Type} {C : γ → γ' → Prop} {f : γ → Except DdlError α}
    {f' : γ' → Except DdlError α'} {cs : List γ} {cs' : List γ'} (h : List.Forall₂ C cs cs')
    (hf : ∀ c c', C c c' → Paired A (f c) (f' c')) :
    Paired (List.Forall₂ A) (cs.mapM f) (cs'.mapM f') := by
  induction h with
  | nil => exact ok .nil
  | cons hc hrest ih =>
    rw [List.mapM_cons, List.mapM_cons]
    apply (hf _ _ hc).bind
    intro a a' ha
    apply ih.bind
    intro as as' has
    exact ok (.cons ha has)

theorem single {a : α} {a' : α'} (h : A a a') :
    Paired (List.Forall₂ A) (.ok [a]) (.ok [a']) :=
  ok (.cons h .nil)

/-- A run beside itself, where every result is related to itself. -/
theorem refl {A : α → α → Prop} {x : Except DdlError α} (h : ∀ a, x = .ok a → A a a) :
    Paired A x x := by
  cases x with
  | ok a => exact ok (h a rfl)
  | error e => exact error e e

end Paired

end SchemaDdl.Lexical
