import Mathlib.Data.List.Induction
import SchemaDdl.Proofs.Builtin

/-!
# New tables

What the statement for a new table says, told from its columns alone. The columns of a unique
constraint are collected while the columns are gone through; `ofColumns_eq_map` says that this gives
the labels in the order of first appearance, each with exactly the columns of that label.
`createTable_iff_creates` says of every dialect that creating a table in the standard way has the
outcome that `Creates` describes and no other, and that it does not depend on the nullability of the
primary key unless the check of identity columns does; `createTable_strict` has a check that does.
-/

namespace SchemaDdl

namespace NewTable

/-- The definition of a column: never nullable in the primary key, and of the identity type exactly
if the server assigns the values. -/
def definition (d : Dialect) (table : String) (c : TableColumn) : Except DdlError String :=
  d.columnDefinition table { c.column with nullable := c.column.nullable && !c.primaryKey }
    c.identity

/-- The same in full, for a dialect without a form of its own for column definitions. -/
def spelledDefinition (d : Dialect) (table : String) (c : TableColumn) :
    Except DdlError String := do
  let type ← (if c.identity then d.identityClause c.column.kind else d.typeClause c.column.kind)
  let default ← d.defaultClause table
    { c.column with nullable := c.column.nullable && !c.primaryKey }
  return d.quoteName c.name ++ " " ++ type ++ default ++
    (if c.column.nullable && !c.primaryKey then "" else " NOT NULL")

def keys (columns : List TableColumn) : List String :=
  (columns.filter (·.primaryKey)).map (·.name)

/-- The labels of unique constraints, in the order of first appearance. -/
def labels (columns : List TableColumn) : List String :=
  ((columns.map (·.uniqueGroup)).filter (· ≠ "")).eraseDups

/-- The columns of the unique constraint of a label. -/
def members (columns : List TableColumn) (label : String) : List TableColumn :=
  columns.filter (·.uniqueGroup = label)

/-- The lines between the brackets of the statement. -/
def lines (d : Dialect) (columns : List TableColumn) (primaryKeyName : String)
    (definitions : List String) : List String :=
  definitions ++
    (if keys columns = [] then [] else [d.primaryKeyClause primaryKeyName (keys columns)]) ++
    (labels columns).map fun label => d.uniqueClause ((members columns label).map (·.name))

def statement (d : Dialect) (table : String) (lines : List String) : String :=
  "CREATE TABLE " ++ d.quoteName table ++ " (\n" ++ ",\n".intercalate (lines.map ("    " ++ ·)) ++
    "\n)"

/-- The statements for a table whose identity columns are accepted. -/
def statements (d : Dialect) (table : String) (columns : List TableColumn)
    (primaryKeyName : String) : Except DdlError (List String) := do
  let definitions ← columns.mapM (definition d table)
  return [statement d table (lines d columns primaryKeyName definitions)]

/-- What comes of creating a table. -/
inductive Creates (d : Dialect) (table : String) (columns : List TableColumn)
    (primaryKeyName : String) : Except DdlError (List String) → Prop
  /-- The identity columns are refused. -/
  | refused {e : DdlError} (identity : d.checkIdentityColumns table columns = .error e) :
    Creates d table columns primaryKeyName (.error e)
  /-- A column cannot be defined, and is the first one. -/
  | undefinable {before after : List TableColumn} {c : TableColumn} {e : DdlError}
    (identity : d.checkIdentityColumns table columns = .ok ())
    (split : columns = before ++ c :: after)
    (earlier : ∀ b ∈ before, ∃ text, definition d table b = .ok text)
    (first : definition d table c = .error e) :
    Creates d table columns primaryKeyName (.error e)
  | created {definitions : List String}
    (identity : d.checkIdentityColumns table columns = .ok ())
    (defined : columns.map (definition d table) = definitions.map .ok) :
    Creates d table columns primaryKeyName
      (.ok [statement d table (lines d columns primaryKeyName definitions)])

/-! ## Unique constraints -/

theorem eraseDups_concat (labels : List String) (label : String) :
    (labels ++ [label]).eraseDups =
      if label ∈ labels then labels.eraseDups else labels.eraseDups ++ [label] := by
  rw [List.eraseDups_append]
  split
  · next h => simp [List.removeAll, h]
  · next h => simp [List.removeAll, h, List.eraseDups_cons]

section Step

variable (columns : List TableColumn) (c : TableColumn)

theorem labels_concat :
    labels (columns ++ [c]) =
      if c.uniqueGroup = "" ∨ c.uniqueGroup ∈ labels columns then labels columns
      else labels columns ++ [c.uniqueGroup] := by
  unfold labels
  by_cases hempty : c.uniqueGroup = ""
  · simp [hempty]
  · rw [List.map_append, List.filter_append]
    simp [hempty, eraseDups_concat]

theorem members_concat (label : String) :
    members (columns ++ [c]) label =
      if c.uniqueGroup = label then members columns label ++ [c] else members columns label := by
  unfold members
  rw [List.filter_append]
  split <;> simp [*]

theorem ofColumns_concat :
    UniqueGroups.ofColumns (columns ++ [c]) =
      if c.uniqueGroup = "" then UniqueGroups.ofColumns columns
      else UniqueGroups.insert c.uniqueGroup c.name (UniqueGroups.ofColumns columns) := by
  simp [UniqueGroups.ofColumns, String.isEmpty_iff]

end Step

variable {columns : List TableColumn} {label : String}

theorem mem_labels :
    label ∈ labels columns ↔ label ≠ "" ∧ ∃ c ∈ columns, c.uniqueGroup = label := by
  unfold labels
  rw [List.mem_eraseDups, List.mem_filter, List.mem_map, decide_eq_true_iff, and_comm]

theorem nodup_labels (columns : List TableColumn) : (labels columns).Nodup := by
  induction columns using List.reverseRecOn with
  | nil => exact List.nodup_nil
  | append_singleton columns c ih =>
    rw [labels_concat]
    split
    · exact ih
    · next h =>
      have hnew : c.uniqueGroup ∉ labels columns := fun hmem => h (.inr hmem)
      refine List.nodup_append.mpr ⟨ih, List.pairwise_singleton _ _, fun l hl l' hl' heq => hnew ?_⟩
      rwa [← List.mem_singleton.mp hl', ← heq]

theorem members_of_not_mem (hlabel : label ≠ "") (h : label ∉ labels columns) :
    members columns label = [] := by
  refine List.filter_eq_nil_iff.mpr fun c hc heq => h (mem_labels.mpr ⟨hlabel, c, hc, ?_⟩)
  exact decide_eq_true_iff.mp heq

/-- A column joins the group of its label, which comes last if it is new. -/
theorem insert_map (column : String) (columnsOf : String → List String) {labels : List String}
    (h : labels.Nodup) :
    UniqueGroups.insert label column (labels.map fun l => (l, columnsOf l)) =
      if label ∈ labels then
        labels.map fun l => (l, if label = l then columnsOf l ++ [column] else columnsOf l)
      else labels.map (fun l => (l, columnsOf l)) ++ [(label, [column])] := by
  induction labels with
  | nil => rfl
  | cons l rest ih =>
    obtain ⟨hl, hrest⟩ := List.nodup_cons.mp h
    rw [List.map_cons, UniqueGroups.insert]
    by_cases heq : l = label
    · subst heq
      -- The label is not found a second time, so the later groups stay as they are.
      have hlater : rest.map (fun l' => (l', if l = l' then columnsOf l' ++ [column]
          else columnsOf l')) = rest.map fun l' => (l', columnsOf l') := by
        apply List.map_congr_left
        intro l' hl'
        have hne : l ≠ l' := fun heq => hl (heq.symm ▸ hl')
        rw [if_neg hne]
      rw [if_pos rfl, if_pos List.mem_cons_self, List.map_cons, if_pos rfl, hlater]
    · have hmem : label ∈ l :: rest ↔ label ∈ rest := by
        rw [List.mem_cons, or_iff_right (Ne.symm heq)]
      rw [if_neg heq, ih hrest, if_congr hmem rfl rfl]
      split
      · rw [List.map_cons, if_neg (Ne.symm heq)]
      · rfl

theorem map_members_concat {c : TableColumn} {labels : List String} (h : c.uniqueGroup ∉ labels) :
    labels.map (fun l => (l, (members (columns ++ [c]) l).map (·.name))) =
      labels.map fun l => (l, (members columns l).map (·.name)) := by
  apply List.map_congr_left
  intro l hl
  have hne : c.uniqueGroup ≠ l := fun heq => h (heq.symm ▸ hl)
  rw [members_concat, if_neg hne]

theorem ofColumns_eq_map (columns : List TableColumn) :
    UniqueGroups.ofColumns columns =
      (labels columns).map fun label => (label, (members columns label).map (·.name)) := by
  -- The groups grow at the end of the table, so the induction does too.
  induction columns using List.reverseRecOn with
  | nil => rfl
  | append_singleton columns c ih =>
    rw [ofColumns_concat, labels_concat, ih, insert_map _ _ (nodup_labels columns)]
    by_cases hempty : c.uniqueGroup = ""
    · have hnone : c.uniqueGroup ∉ labels columns := fun hmem => (mem_labels.mp hmem).1 hempty
      rw [if_pos hempty, if_pos (.inl hempty), map_members_concat hnone]
    rw [if_neg hempty]
    by_cases hold : c.uniqueGroup ∈ labels columns
    · rw [if_pos hold, if_pos (.inr hold)]
      simp only [members_concat, apply_ite (List.map TableColumn.name), List.map_append,
        List.map_singleton]
    · rw [if_neg hold, if_neg (by simp [hempty, hold]), List.map_append, List.map_singleton,
        map_members_concat hold, members_concat, if_pos rfl, members_of_not_mem hempty hold]
      rfl

theorem flatMap_members_perm (columns : List TableColumn) {labels : List String}
    (h : labels.Nodup) :
    (labels.flatMap (members columns)).Perm (columns.filter (·.uniqueGroup ∈ labels)) := by
  induction labels with
  | nil => simp
  | cons l rest ih =>
    obtain ⟨hl, hrest⟩ := List.nodup_cons.mp h
    -- The columns with one of the labels fall apart into those of the first label and the others.
    let mine := columns.filter (·.uniqueGroup ∈ l :: rest)
    have hfirst : members columns l = mine.filter (·.uniqueGroup = l) := by
      rw [List.filter_filter]
      apply List.filter_congr
      intro c hc
      by_cases heq : c.uniqueGroup = l <;> simp [heq]
    have hothers : columns.filter (·.uniqueGroup ∈ rest) =
        mine.filter fun c => !decide (c.uniqueGroup = l) := by
      rw [List.filter_filter]
      apply List.filter_congr
      intro c hc
      by_cases heq : c.uniqueGroup = l <;> simp [heq, hl]
    have hrest : (members columns l ++ rest.flatMap (members columns)).Perm
        (members columns l ++ columns.filter (·.uniqueGroup ∈ rest)) := (ih hrest).append_left _
    rw [List.flatMap_cons]
    refine hrest.trans ?_
    rw [hfirst, hothers]
    exact List.filter_append_perm _ mine

/-- Every column with a label is in exactly one unique constraint, as often as in the table. -/
theorem flatMap_labels_perm (columns : List TableColumn) :
    ((labels columns).flatMap (members columns)).Perm (columns.filter (·.uniqueGroup ≠ "")) := by
  have hlabelled : columns.filter (·.uniqueGroup ∈ labels columns) =
      columns.filter (·.uniqueGroup ≠ "") := by
    apply List.filter_congr
    intro c hc
    rw [decide_eq_decide, mem_labels, and_iff_left ⟨c, hc, rfl⟩]
  rw [← hlabelled]
  exact flatMap_members_perm columns (nodup_labels columns)

/-! ## The statement -/

variable {d : Dialect} {table primaryKeyName : String}

theorem definition_eq_spelledDefinition
    (h : d.columnDefinition = Standard.columnDefinition d.toSpelling d.defaultClause)
    (c : TableColumn) : definition d table c = spelledDefinition d table c := by
  rw [definition, h, Standard.columnDefinition_eq_bind]
  rfl

theorem createTable_eq_bind :
    Standard.createTable d.toVocabulary d.checkIdentityColumns table columns primaryKeyName =
      d.checkIdentityColumns table columns >>= fun _ =>
        statements d table columns primaryKeyName := by
  have hdefinition : ∀ c, d.columnDefinition table c.defined c.identity = definition d table c :=
    fun _ => rfl
  unfold Standard.createTable statements
  rw [ofColumns_eq_map]
  simp only [hdefinition, List.map_map, List.isEmpty_iff]
  rfl

theorem createTable_eq_iff_creates {r : Except DdlError (List String)} :
    Standard.createTable d.toVocabulary d.checkIdentityColumns table columns primaryKeyName = r ↔
      Creates d table columns primaryKeyName r := by
  rw [createTable_eq_bind]
  constructor
  · rintro rfl
    cases hidentity : d.checkIdentityColumns table columns with
    | error e => exact .refused hidentity
    | ok _ =>
      change Creates d table columns primaryKeyName (statements d table columns primaryKeyName)
      unfold statements
      cases hdefs : columns.mapM (definition d table) with
      | error e =>
        obtain ⟨before, c, after, hsplit, hearlier, hfirst⟩ := mapM_eq_error_iff.mp hdefs
        exact .undefinable hidentity hsplit hearlier hfirst
      | ok definitions => exact .created hidentity (mapM_eq_ok_iff.mp hdefs)
  · intro h
    unfold statements
    cases h with
    | refused hidentity =>
      rw [hidentity]
      rfl
    | undefinable hidentity hsplit hearlier hfirst =>
      rw [hidentity, mapM_eq_error_iff.mpr ⟨_, _, _, hsplit, hearlier, hfirst⟩]
      rfl
    | created hidentity hdefined =>
      rw [hidentity, mapM_eq_ok_iff.mpr hdefined]
      rfl

/-! ## Columns with the same roles -/

/-- The function changes neither the name of a column nor its roles. -/
structure KeepsRoles (f : TableColumn → TableColumn) : Prop where
  name : ∀ c, (f c).name = c.name
  primaryKey : ∀ c, (f c).primaryKey = c.primaryKey
  uniqueGroup : ∀ c, (f c).uniqueGroup = c.uniqueGroup
  identity : ∀ c, (f c).identity = c.identity

section

variable {f : TableColumn → TableColumn} (hf : KeepsRoles f)

include hf

/-- Beside their roles, columns appear in the statement only with their definitions. -/
theorem statements_map (hdefinition : ∀ c, definition d table (f c) = definition d table c)
    (columns : List TableColumn) :
    statements d table (columns.map f) primaryKeyName =
      statements d table columns primaryKeyName := by
  have hkeys : keys (columns.map f) = keys columns := by
    simp only [keys, List.filter_map, List.map_map, Function.comp_def, hf.primaryKey, hf.name]
  have hlabels : labels (columns.map f) = labels columns := by
    simp only [labels, List.map_map, Function.comp_def, hf.uniqueGroup]
  have hmembers : ∀ label, (members (columns.map f) label).map (·.name) =
      (members columns label).map (·.name) := by
    intro label
    simp only [members, List.filter_map, List.map_map, Function.comp_def, hf.uniqueGroup, hf.name]
  have hdefinitions : (columns.map f).mapM (definition d table) =
      columns.mapM (definition d table) := by
    rw [List.mapM_map]
    simp only [Function.comp_def, hdefinition]
  simp only [statements, lines, hkeys, hlabels, hmembers, hdefinitions]

theorem sqlite_checkIdentityColumns_map (columns : List TableColumn) :
    Sqlite.checkIdentityColumns table (columns.map f) =
      Sqlite.checkIdentityColumns table columns := by
  have hcount : (columns.map f).countP (·.primaryKey) = columns.countP (·.primaryKey) := by
    simp only [List.countP_map, Function.comp_def, hf.primaryKey]
  have hfind : (columns.map f).find? (·.identity) = (columns.find? (·.identity)).map f := by
    simp only [List.find?_map, Function.comp_def, hf.identity]
  unfold Sqlite.checkIdentityColumns
  rw [hcount, hfind]
  cases columns.find? (·.identity) with
  | none => rfl
  | some c => simp only [Option.map_some, hf.primaryKey, hf.name]

theorem checkIdentityColumns_map (b : Builtin) (columns : List TableColumn) :
    b.dialect.checkIdentityColumns table (columns.map f) =
      b.dialect.checkIdentityColumns table columns := by
  cases b with
  | informix | postgresql | sqlServer => rfl
  | sqlite => exact sqlite_checkIdentityColumns_map hf columns

theorem createTable_map (b : Builtin)
    (hdefinition : ∀ c, definition b.dialect table (f c) = definition b.dialect table c)
    (columns : List TableColumn) :
    b.dialect.createTable table (columns.map f) primaryKeyName =
      b.dialect.createTable table columns primaryKeyName := by
  rw [b.createTable_eq, createTable_eq_bind, createTable_eq_bind, checkIdentityColumns_map hf b,
    statements_map hf hdefinition]

end

/-! ## Nullability of the primary key -/

/-- The same column, but for whether it is nullable if it is in the primary key. -/
def SameButKeyNullability (c c' : TableColumn) : Prop :=
  c' = c ∨ c.primaryKey = true ∧ ∃ nullable, c' = { c with column := { c.column with nullable } }

/-- The column with the nullability that a table gives it. -/
def normal (c : TableColumn) : TableColumn := { c with column := c.defined }

theorem normal_eq_of_same {c c' : TableColumn} (h : SameButKeyNullability c c') :
    normal c' = normal c := by
  rcases h with rfl | ⟨hkey, nullable, rfl⟩
  · rfl
  · simp [normal, TableColumn.defined, hkey]

theorem map_normal_eq_of_same {columns' : List TableColumn}
    (h : List.Forall₂ SameButKeyNullability columns columns') :
    columns'.map normal = columns.map normal := by
  induction h with
  | nil => rfl
  | cons hc _ ih => rw [List.map_cons, List.map_cons, normal_eq_of_same hc, ih]

theorem keepsRoles_normal : KeepsRoles normal :=
  ⟨fun _ => rfl, fun _ => rfl, fun _ => rfl, fun _ => rfl⟩

theorem definition_normal (c : TableColumn) :
    definition d table (normal c) = definition d table c := by
  simp [definition, normal, TableColumn.defined]

/-- Nullability of the primary key matters only to a check of identity columns that looks at it. -/
theorem createTable_congr {columns' : List TableColumn}
    (hsame : List.Forall₂ SameButKeyNullability columns columns')
    (hidentity : d.checkIdentityColumns table columns' = d.checkIdentityColumns table columns) :
    Standard.createTable d.toVocabulary d.checkIdentityColumns table columns' primaryKeyName =
      Standard.createTable d.toVocabulary d.checkIdentityColumns table columns primaryKeyName := by
  rw [createTable_eq_bind, createTable_eq_bind, hidentity,
    ← statements_map keepsRoles_normal definition_normal columns', map_normal_eq_of_same hsame,
    statements_map keepsRoles_normal definition_normal]

theorem checkIdentityColumns_congr (b : Builtin) {columns' : List TableColumn}
    (hsame : List.Forall₂ SameButKeyNullability columns columns') :
    b.dialect.checkIdentityColumns table columns' =
      b.dialect.checkIdentityColumns table columns := by
  rw [← checkIdentityColumns_map keepsRoles_normal b columns', map_normal_eq_of_same hsame,
    checkIdentityColumns_map keepsRoles_normal]

/-- Creating a table in the standard way, as the built-in dialects do, has the outcome that its
columns determine. Every column with a label is in exactly one unique constraint. Nullability of the
primary key makes no difference to a dialect whose check of identity columns gives one answer. -/
theorem createTable_iff_creates (d : Dialect) (table : String) (columns : List TableColumn)
    (primaryKeyName : String) :
    (∀ r, Standard.createTable d.toVocabulary d.checkIdentityColumns table columns
        primaryKeyName = r ↔ Creates d table columns primaryKeyName r) ∧
      (d.columnDefinition = Standard.columnDefinition d.toSpelling d.defaultClause →
        ∀ c, definition d table c = spelledDefinition d table c) ∧
      ((labels columns).flatMap (members columns)).Perm (columns.filter (·.uniqueGroup ≠ "")) ∧
      (∀ columns', List.Forall₂ SameButKeyNullability columns columns' →
        d.checkIdentityColumns table columns' = d.checkIdentityColumns table columns →
          Standard.createTable d.toVocabulary d.checkIdentityColumns table columns'
              primaryKeyName =
            Standard.createTable d.toVocabulary d.checkIdentityColumns table columns
              primaryKeyName) ∧
      ∀ b : Builtin,
        b.dialect.createTable =
            Standard.createTable b.dialect.toVocabulary b.dialect.checkIdentityColumns ∧
          b.dialect.columnDefinition =
            Standard.columnDefinition b.dialect.toSpelling b.dialect.defaultClause ∧
          ∀ columns', List.Forall₂ SameButKeyNullability columns columns' →
            b.dialect.createTable table columns' primaryKeyName =
              b.dialect.createTable table columns primaryKeyName := by
  refine ⟨fun r => createTable_eq_iff_creates, definition_eq_spelledDefinition,
    flatMap_labels_perm columns, fun columns' => createTable_congr, fun b => ?_⟩
  refine ⟨b.createTable_eq, b.columnDefinition_eq, fun columns' hsame => ?_⟩
  rw [b.createTable_eq]
  exact createTable_congr hsame (checkIdentityColumns_congr b hsame)

/-- A table whose unique constraints interleave. -/
def seats : List TableColumn :=
  [{ column := { name := "hall", kind := .unsized .int32 }
     primaryKey := true
     uniqueGroup := "place" },
   { column := { name := "code", kind := .sized .string 8 }, uniqueGroup := "label" },
   { column := { name := "row", kind := .unsized .int32 }, uniqueGroup := "place" }]

theorem createTable_seats :
    List.Forall₂ SameButKeyNullability seats (seats.map normal) ∧
      Postgresql.dialect.createTable "seats" (seats.map normal) "PK_seats" =
        .ok ["CREATE TABLE \"seats\" (\n    \"hall\" INTEGER NOT NULL,\n" ++
          "    \"code\" VARCHAR(8),\n    \"row\" INTEGER,\n" ++
          "    CONSTRAINT \"PK_seats\" PRIMARY KEY (\"hall\"),\n" ++
          "    UNIQUE (\"hall\", \"row\"),\n    UNIQUE (\"code\")\n)"] := by
  have hsame : List.Forall₂ SameButKeyNullability seats (seats.map normal) :=
    .cons (.inr ⟨rfl, false, rfl⟩) (.cons (.inl rfl) (.cons (.inl rfl) .nil))
  obtain ⟨hcreates, hspelled, -, -, hbuiltin⟩ :=
    createTable_iff_creates Postgresql.dialect "seats" seats "PK_seats"
  obtain ⟨hstandard, hdefinition, hnullability⟩ := hbuiltin .postgresql
  have hdefined : seats.map (definition Postgresql.dialect "seats") =
      ["\"hall\" INTEGER NOT NULL", "\"code\" VARCHAR(8)", "\"row\" INTEGER"].map .ok := by
    rw [List.map_congr_left fun c _ => hspelled hdefinition c]
    rfl
  have hcreated : Postgresql.dialect.createTable "seats" seats "PK_seats" = _ :=
    (congrArg (· "seats" seats "PK_seats") hstandard).trans
      ((hcreates _).mpr (.created rfl hdefined))
  exact ⟨hsame, (hnullability _ hsame).trans hcreated⟩

/-- A check that does look at nullability: values that the server assigns are never null. -/
def refuseNullableIdentity (table : String) (columns : List TableColumn) : Except DdlError Unit :=
  match columns.find? fun c => c.identity && c.column.nullable with
  | some c => .error (.precondition (.identityNotSoleKey table c.name))
  | none => .ok ()

/-- A dialect that is standard but for this check. -/
def strict : Dialect where
  toVocabulary := Postgresql.vocabulary
  checkIdentityColumns := refuseNullableIdentity
  dropDefaultStatement := Postgresql.dialect.dropDefaultStatement
  modifyColumnStatement := Postgresql.dialect.modifyColumnStatement
  addDefaultStatement := Postgresql.dialect.addDefaultStatement
  existsTable := Postgresql.dialect.existsTable

/-- A table of one column, which is its primary key. -/
def counter (nullable : Bool) : List TableColumn :=
  [{ column := { name := "id", kind := .unsized .int32, nullable }
     primaryKey := true
     identity := true }]

/-- The table is refused or created, depending on whether its primary key is nullable. -/
theorem createTable_strict :
    List.Forall₂ SameButKeyNullability (counter true) (counter false) ∧
      strict.createTable "t" (counter true) "PK_t" =
        .error (.precondition (.identityNotSoleKey "t" "id")) ∧
      strict.createTable "t" (counter false) "PK_t" =
        .ok ["CREATE TABLE \"t\" (\n" ++
          "    \"id\" INTEGER GENERATED BY DEFAULT AS IDENTITY NOT NULL,\n" ++
          "    CONSTRAINT \"PK_t\" PRIMARY KEY (\"id\")\n)"] :=
  ⟨.cons (.inr ⟨rfl, false, rfl⟩) .nil, rfl, rfl⟩

end NewTable

end SchemaDdl
