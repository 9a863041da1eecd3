import Mathlib.Data.Set.Function
import SchemaDdl.Proofs.Builtin
import SchemaDdl.Proofs.Lexical.Written

/-!
# Lists of names

Names stand in a list each between its own quotes, with a comma and a blank from one to the next. A
name may hold commas, blanks and quotes itself, so a list is never cut at its commas: one name is
read after the other, and only what stands behind a name tells whether a further one follows.
`readList?_quoteList` says that this gives every list back, and `names_readBack` adds what follows
from it: two lists are never written alike, and the statement that adds a foreign key tells which
column refers to which.
-/

namespace SchemaDdl

open Text (Quote stringLiteral)

/-! ## Reading lists -/

namespace Text.Quote

variable {q : Quote} {cs after more name : List Char} {names : List String}

/-- Reading loses nothing: the name, written again, and what follows it are the text. -/
theorem encode_of_read? (h : q.read? cs = some (name, after)) :
    (q.encode (String.ofList name)).toList ++ after = cs := by
  cases cs with
  | nil => cases h
  | cons c rest =>
    rw [read?] at h
    split at h
    · next hc => simp [hc, Lexical.escape_of_readContent? h]
    · cases h

theorem length_lt_of_read? (h : q.read? cs = some (name, after)) : after.length < cs.length := by
  have hlength := congrArg List.length (encode_of_read? h)
  simp only [toList_encode, List.length_append, List.length_cons] at hlength
  omega

/-- Reads names with a comma and a blank between them, at least one, from the front of a text. -/
def readList? (q : Quote) (cs : List Char) : Option (List String × List Char) :=
  match _h : q.read? cs with
  | none => none
  | some (name, ',' :: ' ' :: more) =>
    (q.readList? more).map fun (names, after) => (String.ofList name :: names, after)
  | some (name, after) => some ([String.ofList name], after)
termination_by cs.length
decreasing_by
  have := length_lt_of_read? ‹_›
  simp only [List.length_cons] at this
  omega

theorem readList?_further (h : q.read? cs = some (name, ',' :: ' ' :: more)) :
    q.readList? cs =
      (q.readList? more).map fun (names, after) => (String.ofList name :: names, after) := by
  rw [readList?]
  split
  · next hnone => rw [h] at hnone; cases hnone
  · next hsome => rw [h] at hsome; cases hsome; rfl
  · next hother hsome => rw [h] at hsome; cases hsome; exact (hother _ rfl).elim

theorem readList?_last (h : q.read? cs = some (name, after)) (hcomma : after.head? ≠ some ',') :
    q.readList? cs = some ([String.ofList name], after) := by
  rw [readList?]
  split
  · next hnone => rw [h] at hnone; cases hnone
  · next hsome => rw [h] at hsome; cases hsome; exact absurd rfl hcomma
  · next hsome => rw [h] at hsome; cases hsome; rfl

theorem length_lt_of_readList? (h : q.readList? cs = some (names, after)) :
    after.length < cs.length := by
  fun_induction readList? q cs generalizing names with
  | case1 => cases h
  | case2 cs name more hread ih =>
    obtain ⟨⟨names', after'⟩, hmore, heq⟩ := Option.map_eq_some_iff.mp h
    cases heq
    have hname := length_lt_of_read? hread
    have hrest := ih hmore
    simp only [List.length_cons] at hname
    omega
  | case3 cs name after' hother hread =>
    cases h
    exact length_lt_of_read? hread

end Text.Quote

namespace Spelling

variable {v : Spelling} {names : List String}

theorem quoteList_singleton (v : Spelling) (n : String) : v.quoteList [n] = v.quoteName n := by
  simp [quoteList]

theorem quoteList_cons_cons (v : Spelling) (m n : String) (rest : List String) :
    v.quoteList (m :: n :: rest) = v.quoteName m ++ ", " ++ v.quoteList (n :: rest) :=
  String.intercalate_cons_cons

/-- A list is read back whole, and reading stops exactly behind it. -/
theorem readList?_quoteList (hquote : v.quote.closing ≠ ',') (hne : names ≠ []) {after : List Char}
    (hclosing : after.head? ≠ some v.quote.closing) (hcomma : after.head? ≠ some ',') :
    v.quote.readList? ((v.quoteList names).toList ++ after) = some (names, after) := by
  induction names with
  | nil => exact absurd rfl hne
  | cons m rest ih =>
    cases rest with
    | nil =>
      have hread : v.quote.read? ((v.quoteName m).toList ++ after) = some (m.toList, after) :=
        v.quote.read?_encode m after hclosing
      rw [quoteList_singleton, Quote.readList?_last hread hcomma, String.ofList_toList]
    | cons n rest =>
      -- The first name ends before the comma, whatever it holds, and the rest is a list again.
      have htext : (v.quoteList (m :: n :: rest)).toList ++ after =
          (v.quoteName m).toList ++ ',' :: ' ' :: ((v.quoteList (n :: rest)).toList ++ after) := by
        simp [quoteList_cons_cons, String.toList_append]
      have hread := v.quote.read?_encode m
        (',' :: ' ' :: ((v.quoteList (n :: rest)).toList ++ after)) (by simpa using hquote.symm)
      rw [htext, quoteName, Quote.readList?_further hread, ih (by simp)]
      simp

/-- Different lists are written differently. -/
theorem quoteList_injOn (hquote : v.quote.closing ≠ ',') :
    Set.InjOn v.quoteList {names | names ≠ []} := by
  intro names hnames names' hnames' h
  have hread : v.quote.readList? ((v.quoteList names).toList ++ []) = some (names, []) :=
    readList?_quoteList hquote hnames (by simp) (by simp)
  have hread' : v.quote.readList? ((v.quoteList names').toList ++ []) = some (names', []) :=
    readList?_quoteList hquote hnames' (by simp) (by simp)
  rw [h, hread'] at hread
  cases hread
  rfl

end Spelling

/-! ## Lists in a statement -/

namespace Lexical

/-- The lists of names between parentheses in a text, in order. Names outside parentheses are passed
over whole, so that nothing inside a name is taken for a list. -/
def nameLists? (q : Quote) (cs : List Char) : Option (List (List String)) :=
  match cs with
  | [] => some []
  | c :: rest =>
    if c = '(' then
      match _h : q.readList? rest with
      | some (names, ')' :: after) => (nameLists? q after).map (names :: ·)
      | _ => none
    else if c = q.opening then
      match _h : q.read? (c :: rest) with
      | some (_, after) => nameLists? q after
      | none => none
    else nameLists? q rest
termination_by cs.length
decreasing_by
  · have := Quote.length_lt_of_readList? ‹_›
    simp only [List.length_cons] at this ⊢
    omega
  · exact Quote.length_lt_of_read? ‹_›
  · simp

variable {q : Quote} {s r k : String} {lists lists' : List (List String)} {names : List String}

theorem nameLists?_bare {c : Char} (hc : c ≠ '(') (hopening : c ≠ q.opening) (rest : List Char) :
    nameLists? q (c :: rest) = nameLists? q rest := by
  rw [nameLists?, if_neg hc, if_neg hopening]

theorem nameLists?_list {after rest : List Char}
    (h : q.readList? rest = some (names, ')' :: after)) :
    nameLists? q ('(' :: rest) = (nameLists? q after).map (names :: ·) := by
  rw [nameLists?, if_pos rfl]
  split
  · next hsome => rw [h] at hsome; cases hsome; rfl
  · next hother => exact absurd h (hother _ _)

theorem nameLists?_name (hq : q.opening ≠ '(') (n : String) {after : List Char}
    (h : after.head? ≠ some q.closing) :
    nameLists? q ((q.encode n).toList ++ after) = nameLists? q after := by
  have hread := q.read?_encode n after h
  rw [Quote.toList_encode, List.cons_append] at hread ⊢
  rw [nameLists?, if_neg hq, if_pos rfl]
  split
  · next hsome => rw [hread] at hsome; cases hsome; rfl
  · next hnone => rw [hread] at hnone; cases hnone

/-- Whatever follows, reading passes over the text and finds these lists in it. So texts that hold
lists can be put together. -/
def HoldsLists (q : Quote) (lists : List (List String)) (s : String) : Prop :=
  ∀ after, nameLists? q (s.toList ++ after) = (nameLists? q after).map (lists ++ ·)

namespace HoldsLists

theorem append (h : HoldsLists q lists s) (h' : HoldsLists q lists' r) :
    HoldsLists q (lists ++ lists') (s ++ r) := by
  intro after
  rw [String.toList_append, List.append_assoc, h, h', Option.map_map]
  simp [Function.comp_def]

/-- A word without a parenthesis holds no list. -/
theorem word (hq : q = .double ∨ q = .bracket) (hk : Word k) (hparen : '(' ∉ k.toList) :
    HoldsLists q [] k := by
  intro after
  have hbare : ∀ c ∈ k.toList, c ≠ '(' ∧ c ≠ q.opening := by
    intro c hc
    exact ⟨fun heq => hparen (heq ▸ hc), (ne_delimiter_of_calm (.inr hq) (hk.plain c hc).1).1⟩
  generalize k.toList = cs at hbare ⊢
  induction cs with
  | nil => simp
  | cons c rest ih =>
    obtain ⟨hc, hopening⟩ := hbare c (by simp)
    rw [List.cons_append, nameLists?_bare hc hopening]
    exact ih fun d hd => hbare d (by simp [hd])

/-- Nor does a name, which a word keeps apart from what follows. -/
theorem name (hq : q = .double ∨ q = .bracket) (n : String) (hk : Word k)
    (hparen : '(' ∉ k.toList) : HoldsLists q [] (q.encode n ++ k) := by
  intro after
  have hopening : q.opening ≠ '(' := (ne_delimiter_of_calm (.inr hq) (by decide)).1.symm
  have hhead : (k.toList ++ after).head? ≠ some q.closing := by
    obtain ⟨c, rest, hcs⟩ := List.exists_cons_of_ne_nil hk.ne_nil
    have hc : Calm c := (hk.plain c (by simp [hcs])).1
    simpa [hcs] using (ne_delimiter_of_calm (.inr hq) hc).2
  rw [String.toList_append, List.append_assoc, nameLists?_name hopening n hhead]
  exact word hq hk hparen after

theorem list {v : Vocabulary} (hv : v.quote = .double ∨ v.quote = .bracket) (hne : names ≠ []) :
    HoldsLists v.quote [names] ("(" ++ v.quoteList names ++ ")") := by
  intro after
  have hcomma : v.quote.closing ≠ ',' := (ne_delimiter_of_calm (.inr hv) (by decide)).2.symm
  have hparen : ')' ≠ v.quote.closing := (ne_delimiter_of_calm (.inr hv) (by decide)).2
  have hread : v.quote.readList? ((v.quoteList names).toList ++ ')' :: after) =
      some (names, ')' :: after) :=
    Spelling.readList?_quoteList hcomma hne (by simpa using hparen) (by simp)
  have htext : ("(" ++ v.quoteList names ++ ")").toList ++ after =
      '(' :: ((v.quoteList names).toList ++ ')' :: after) := by
    simp [String.toList_append]
  rw [htext, nameLists?_list hread]
  rfl

theorem nameLists?_eq (h : HoldsLists q lists s) : nameLists? q s.toList = some lists := by
  have hend := h []
  rw [List.append_nil, nameLists?] at hend
  simpa using hend

/-- The lists in a text that ends with a name. -/
theorem nameLists?_name_end (hq : q = .double ∨ q = .bracket) (h : HoldsLists q lists s)
    (n : String) : nameLists? q (s ++ q.encode n).toList = some lists := by
  have hopening : q.opening ≠ '(' := (ne_delimiter_of_calm (.inr hq) (by decide)).1.symm
  have hname : nameLists? q ((q.encode n).toList ++ []) = nameLists? q [] :=
    nameLists?_name hopening n (by simp)
  rw [List.append_nil] at hname
  rw [String.toList_append, h, hname, nameLists?]
  simp

end HoldsLists

end Lexical

/-! ## Foreign keys -/

open Lexical

/-- The pairs of columns in the statement that adds a foreign key: the columns of its first list
beside those of its second one. -/
def keyReferences? (q : Quote) (s : String) : Option (List KeyReference) :=
  match nameLists? q s.toList with
  | some [columns, referenced] =>
    if columns.length = referenced.length then some (columns.zipWith KeyReference.mk referenced)
    else none
  | _ => none

theorem keyReferences?_eq {q : Quote} {s : String} {references : List KeyReference}
    (h : nameLists? q s.toList =
      some [references.map (·.column), references.map (·.referencedColumn)]) :
    keyReferences? q s = some references := by
  simp [keyReferences?, h, List.zipWith_map]

/-- The part of the statement that does not depend on where the name of the constraint stands. -/
theorem holdsLists_foreignKey {v : Vocabulary} (hv : v.quote = .double ∨ v.quote = .bracket)
    {s : String} (h : HoldsLists v.quote [] s) (referencedTable : String)
    {references : List KeyReference} (hne : references ≠ []) :
    HoldsLists v.quote [references.map (·.column), references.map (·.referencedColumn)]
      (s ++ "(" ++ v.quoteList (references.map (·.column)) ++ ") REFERENCES " ++
        v.quoteName referencedTable ++ " (" ++
        v.quoteList (references.map (·.referencedColumn)) ++ ")") := by
  have hcolumns : HoldsLists v.quote [references.map (·.column)]
      ("(" ++ v.quoteList (references.map (·.column)) ++ ")") :=
    .list hv (by simpa using hne)
  have hreferenced : HoldsLists v.quote [references.map (·.referencedColumn)]
      ("(" ++ v.quoteList (references.map (·.referencedColumn)) ++ ")") :=
    .list hv (by simpa using hne)
  have hword : HoldsLists v.quote [] " REFERENCES " := .word hv (by decide) (by decide)
  have htable : HoldsLists v.quote [] (v.quoteName referencedTable ++ " ") :=
    .name hv referencedTable (by decide) (by decide)
  -- A list takes its parentheses along, which the statement writes with the words beside them.
  have hclose : ") REFERENCES " = ")" ++ " REFERENCES " := rfl
  have hopen : " (" = " " ++ "(" := rfl
  have hlists := (((h.append hcolumns).append hword).append htable).append hreferenced
  rw [hclose, hopen]
  simpa only [String.append_assoc, List.nil_append, List.append_nil, List.cons_append] using hlists

namespace Standard

theorem exists_addForeignKey {v : Vocabulary} (hv : v.quote = .double ∨ v.quote = .bracket)
    (table referencedTable : String) {references : List KeyReference} (hne : references ≠ [])
    (name : String) :
    ∃ s, addForeignKey v table referencedTable references name = .ok [s] ∧
      keyReferences? v.quote s = some references := by
  have hstart : HoldsLists v.quote []
      ("ALTER TABLE " ++ (v.quoteName table ++ " ADD CONSTRAINT ") ++
        (v.quoteName name ++ " FOREIGN KEY ")) :=
    ((HoldsLists.word hv (by decide) (by decide)).append
      (.name hv table (by decide) (by decide))).append (.name hv name (by decide) (by decide))
  have hlists := holdsLists_foreignKey hv hstart referencedTable hne
  have hopen : " FOREIGN KEY (" = " FOREIGN KEY " ++ "(" := rfl
  cases references with
  | nil => exact absurd rfl hne
  | cons r rest =>
    refine ⟨_, rfl, keyReferences?_eq ?_⟩
    rw [hopen, Spelling.alterTable]
    simpa only [String.append_assoc] using hlists.nameLists?_eq

end Standard

namespace Informix

theorem exists_addForeignKey (table referencedTable : String) {references : List KeyReference}
    (hne : references ≠ []) (name : String) :
    ∃ s, dialect.addForeignKey table referencedTable references name = .ok [s] ∧
      keyReferences? vocabulary.quote s = some references := by
  have hv : vocabulary.quote = .double ∨ vocabulary.quote = .bracket := .inl rfl
  have hstart : HoldsLists vocabulary.quote []
      ("ALTER TABLE " ++ (vocabulary.quoteName table ++ " ADD CONSTRAINT FOREIGN KEY ")) :=
    (HoldsLists.word hv (by decide) (by decide)).append (.name hv table (by decide) (by decide))
  have hlists := (holdsLists_foreignKey hv hstart referencedTable hne).append
    (.word hv (k := " CONSTRAINT ") (by decide) (by decide))
  have hopen : " ADD CONSTRAINT FOREIGN KEY (" = " ADD CONSTRAINT FOREIGN KEY " ++ "(" := rfl
  have hend : ") CONSTRAINT " = ")" ++ " CONSTRAINT " := rfl
  cases references with
  | nil => exact absurd rfl hne
  | cons r rest =>
    refine ⟨_, rfl, keyReferences?_eq ?_⟩
    rw [hopen, hend, Spelling.alterTable]
    have hname := hlists.nameLists?_name_end hv name
    rw [List.append_nil] at hname
    simpa only [String.append_assoc, Spelling.quoteName] using hname

end Informix

namespace Dialect

/-- Foreign keys are added by the standard statement or by that of Informix. -/
def AddsForeignKeys (d : Dialect) : Prop :=
  d.addForeignKey = Standard.addForeignKey d.toVocabulary ∨ d = Informix.dialect

/-- Of the dialects of the library only SQLite adds no foreign keys. -/
theorem addsForeignKeys_builtin (b : Builtin) : b.dialect.AddsForeignKeys ↔ b ≠ .sqlite := by
  cases b with
  | informix => exact iff_of_true (.inr rfl) (by decide)
  | postgresql | sqlServer => exact iff_of_true (.inl rfl) (by decide)
  | sqlite =>
    refine iff_of_false ?_ (by simp)
    rintro (hstandard | hinformix)
    · have hkey : Builtin.sqlite.dialect.addForeignKey "t" "r" [⟨"c", "d"⟩] "k" =
          Standard.addForeignKey Builtin.sqlite.dialect.toVocabulary "t" "r" [⟨"c", "d"⟩] "k" := by
        rw [hstandard]
      cases hkey
    · exact absurd (congrArg (·.name) hinformix) (by decide)

/-- Lists of names and texts are read back as they were written, whatever they hold. So no two lists
are written alike, and the statement that adds a foreign key gives back its pairs of columns. -/
theorem names_readBack (d : Dialect) (hd : d.quote = .double ∨ d.quote = .bracket) :
    (∀ names after, names ≠ [] → after.head? ≠ some d.quote.closing → after.head? ≠ some ',' →
      d.quote.readList? ((d.quoteList names).toList ++ after) = some (names, after)) ∧
    (∀ text after, after.head? ≠ some '\'' →
      Quote.single.read? ((stringLiteral text).toList ++ after) = some (text.toList, after)) ∧
    Set.InjOn d.quoteList {names | names ≠ []} ∧
    ∀ table referencedTable references name, d.AddsForeignKeys → references ≠ [] →
      ∃ s, d.addForeignKey table referencedTable references name = .ok [s] ∧
        keyReferences? d.quote s = some references := by
  have hcomma : d.quote.closing ≠ ',' := (ne_delimiter_of_calm (.inr hd) (by decide)).2.symm
  refine ⟨fun names after hne hclosing hafter => ?_, fun text after hafter => ?_, ?_, ?_⟩
  · exact Spelling.readList?_quoteList hcomma hne hclosing hafter
  · exact Quote.single.read?_encode text after hafter
  · exact Spelling.quoteList_injOn hcomma
  · rintro table referencedTable references name (hstandard | rfl) hne
    · rw [hstandard]
      exact Standard.exists_addForeignKey hd table referencedTable hne name
    · exact Informix.exists_addForeignKey table referencedTable hne name

theorem names_readBack_brackets :
    (SqlServer.dialect.quote = .double ∨ SqlServer.dialect.quote = .bracket) ∧
    Quote.bracket.readList?
        ((SqlServer.dialect.quoteList ["a], [b", "]", ""]).toList ++ ") REFERENCES".toList) =
      some (["a], [b", "]", ""], ") REFERENCES".toList) ∧
    Quote.single.read? ((stringLiteral "it's '").toList ++ ", N'D'".toList) =
      some ("it's '".toList, ", N'D'".toList) ∧
    ∃ s, SqlServer.dialect.addForeignKey "orders" "users" [⟨"a], [b", "id"⟩, ⟨"] (", ")"⟩] "FK" =
        .ok [s] ∧
      keyReferences? .bracket s = some [⟨"a], [b", "id"⟩, ⟨"] (", ")"⟩] := by
  have hd : SqlServer.dialect.quote = .double ∨ SqlServer.dialect.quote = .bracket := .inr rfl
  obtain ⟨hlist, htext, -, hkeys⟩ := names_readBack SqlServer.dialect hd
  have hadds : SqlServer.dialect.AddsForeignKeys :=
    (addsForeignKeys_builtin .sqlServer).mpr (by decide)
  exact ⟨hd, hlist _ _ (by simp) (by decide) (by decide), htext _ _ (by decide),
    hkeys _ _ _ _ hadds (by simp)⟩

end Dialect

end SchemaDdl
