import SchemaDdl.Json.Parser
import SchemaDdl.Json.Printer
import SchemaDdl.Proofs.DerivedName

/-!
# Reading written objects

The reader of JSON undoes the writer on objects whose members are texts. `Scans` says that a part of
a text is read as certain tokens whatever follows it, so that the tokens of the parts of a text make
up those of the whole. Main statement: `ofText?_compact_ofTexts`, for any names and any texts.
-/

namespace SchemaDdl.Json

/-- The object with these texts as its members. -/
def ofTexts (texts : List (String × String)) : Json :=
  .object (texts.map fun m => (m.1, .string m.2))

/-! ## Tokens -/

namespace Token

/-- Between tokens, the part of a text is read as these tokens, whatever follows it. -/
def Scans (part : List Char) (tokens : List Token) : Prop :=
  ∀ rest, scan? .between (part ++ rest) = (scan? .between rest).map (tokens ++ ·)

namespace Scans

theorem nil : Scans [] [] := by
  intro rest
  simp

theorem append {part part' : List Char} {tokens tokens' : List Token} (h : Scans part tokens)
    (h' : Scans part' tokens') : Scans (part ++ part') (tokens ++ tokens') := by
  intro rest
  rw [List.append_assoc, h, h', Option.map_map]
  simp only [Function.comp_def, List.append_assoc]

theorem mark {c : Char} {token : Token} (h : start c = ([token], .between)) :
    Scans [c] [token] := by
  intro rest
  rw [List.singleton_append, scan?]
  simp only [step, h, Option.bind_eq_bind, Option.bind_some]
  cases scan? .between rest <;> rfl

theorem quoted (s : String) : Scans (Json.quoted s).toList [text (some s)] := scan?_quoted s

theorem flatMap {α : Type} {part : α → List Char} {tokens : α → List Token}
    (h : ∀ a, Scans (part a) (tokens a)) (as : List α) :
    Scans (as.flatMap part) (as.flatMap tokens) := by
  induction as with
  | nil => exact nil
  | cons a rest ih =>
    rw [List.flatMap_cons, List.flatMap_cons]
    exact (h a).append ih

theorem scan?_eq {s : List Char} {tokens : List Token} (h : Scans s tokens) :
    scan? .between s = some tokens := by
  have hwhole := h []
  simpa [scan?, finish] using hwhole

end Scans

/-- The tokens of a member that is a text. -/
def ofMember (m : String × String) : List Token := [text (some m.1), colon, text (some m.2)]

/-- The tokens of members, with commas between them. -/
def ofMembers : List (String × String) → List Token
  | [] => []
  | m :: rest => ofMember m ++ rest.flatMap fun m => comma :: ofMember m

end Token

/-- A member as it is written. -/
def memberText (m : String × String) : String := quoted m.1 ++ ":" ++ quoted m.2

theorem compactMembers_texts (texts : List (String × String)) :
    compactMembers (texts.map fun m => (m.1, .string m.2)) = texts.map memberText := by
  induction texts with
  | nil => rfl
  | cons m rest ih =>
    rw [List.map_cons, List.map_cons, compactMembers, ih, compact]
    rfl

theorem toList_compact_ofTexts (texts : List (String × String)) :
    (ofTexts texts).compact.toList =
      '\x7b' :: ([','].intercalate (texts.map fun m => (memberText m).toList) ++ ['\x7d']) := by
  rw [ofTexts, compact, compactMembers_texts]
  simp [String.toList_append, String.toList_intercalate, Function.comp_def]

theorem scans_memberText (m : String × String) :
    Token.Scans (memberText m).toList (Token.ofMember m) := by
  have hcolon : Token.Scans [':'] [.colon] := .mark rfl
  have hmember := ((Token.Scans.quoted m.1).append hcolon).append (Token.Scans.quoted m.2)
  rw [memberText, String.toList_append, String.toList_append]
  exact hmember

theorem scans_members (texts : List (String × String)) :
    Token.Scans ([','].intercalate (texts.map fun m => (memberText m).toList))
      (Token.ofMembers texts) := by
  cases texts with
  | nil => exact .nil
  | cons m rest =>
    have hcomma : Token.Scans [','] [.comma] := .mark rfl
    have hrest := Token.Scans.flatMap (fun m => hcomma.append (scans_memberText m)) rest
    rw [List.map_cons, intercalate_cons, List.flatMap_map]
    exact (scans_memberText m).append hrest

/-- An object is read as its brackets and, between them, the tokens of its members. -/
theorem scan?_compact_ofTexts (texts : List (String × String)) :
    Token.scan? .between (ofTexts texts).compact.toList =
      some (.openObject :: (Token.ofMembers texts ++ [.closeObject])) := by
  have hopen : Token.Scans ['\x7b'] [.openObject] := .mark rfl
  have hclose : Token.Scans ['\x7d'] [.closeObject] := .mark rfl
  rw [toList_compact_ofTexts]
  exact (hopen.append ((scans_members texts).append hclose)).scan?_eq

/-! ## Objects -/

namespace Progress

variable {repeated : Repeated} {outer : List Frame} {members : List (Option String × Json)}

/-- What is known of members that are texts when they have been read, last first. -/
def readMembers (texts : List (String × String)) : List (Option String × Json) :=
  (texts.map fun m => (some m.1, Json.string m.2)).reverse

theorem foldlM_laterMembers (texts : List (String × String)) :
    (texts.flatMap fun m => Token.comma :: Token.ofMember m).foldlM (step repeated)
        (inside (.object members :: outer) .commaOrEnd) =
      some (inside (.object (readMembers texts ++ members) :: outer) .commaOrEnd) := by
  induction texts generalizing members with
  | nil => rfl
  | cons m rest ih =>
    have hmember : (Token.comma :: Token.ofMember m).foldlM (step repeated)
        (inside (.object members :: outer) .commaOrEnd) =
          some (inside (.object ((some m.1, .string m.2) :: members) :: outer) .commaOrEnd) := rfl
    rw [List.flatMap_cons, List.foldlM_append, hmember, Option.bind_eq_bind, Option.bind_some, ih]
    simp [readMembers]

theorem foldlM_closeObject :
    [Token.closeObject].foldlM (step repeated) (inside (.object members :: outer) .commaOrEnd) =
      close repeated (.object members) outer :=
  bind_pure _

theorem mapM_readMembers (texts : List (String × String)) :
    (readMembers texts).mapM (fun (name, value) => name.map (·, value)) =
      some (texts.map fun m => (m.1, Json.string m.2)).reverse := by
  rw [readMembers, ← List.map_reverse, List.mapM_map, ← List.map_reverse]
  exact List.mapM_pure

theorem close_readMembers (texts : List (String × String)) :
    close .kept (.object (readMembers texts)) [] = some (complete (ofTexts texts)) := by
  have hdepth : ¬ maxDepth ≤ ([] : List Frame).length := by decide
  simp only [close, hdepth, if_false, mapM_readMembers, arrange, List.reverse_reverse]
  rfl

end Progress

/-- An object of texts is read back from its text. -/
theorem ofText?_compact_ofTexts (texts : List (String × String)) :
    ofText? .kept (ofTexts texts).compact = some (ofTexts texts) := by
  have hread : (Token.openObject :: (Token.ofMembers texts ++ [.closeObject])).foldlM
      (Progress.step .kept) .initial = some (.complete (ofTexts texts)) := by
    cases texts with
    | nil => exact Progress.close_readMembers []
    | cons m rest =>
      have hfirst : (Token.openObject :: Token.ofMember m).foldlM (Progress.step .kept) .initial =
          some (.inside [.object [(some m.1, .string m.2)]] .commaOrEnd) := rfl
      have hmembers : Progress.readMembers rest ++ [(some m.1, .string m.2)] =
          Progress.readMembers (m :: rest) := by
        simp [Progress.readMembers]
      rw [Token.ofMembers, List.append_assoc, ← List.cons_append, List.foldlM_append, hfirst,
        Option.bind_eq_bind, Option.bind_some, List.foldlM_append,
        Progress.foldlM_laterMembers, Option.bind_eq_bind, Option.bind_some, hmembers,
        Progress.foldlM_closeObject]
      exact Progress.close_readMembers (m :: rest)
  rw [ofText?, scan?_compact_ofTexts, Option.bind_eq_bind, Option.bind_some, hread]
  rfl

end SchemaDdl.Json
