import SchemaDdl.PlanFile.Plan
import SchemaDdl.Proofs.CalendarReading
import SchemaDdl.Proofs.JsonReading

/-!
# Migrations are read back from their text

A `Draft` is what a text says about a migration before the length of the label is looked at, so a
migration is read in two steps: the draft, for which any label will do, and then the migration made
of it. Written drafts are read back, whatever they hold (`Draft.ofText?_compact`), and a migration
is written as its draft is. What is read therefore depends on `Migration.create` alone.

A text holds the moment that a clock shows, so the timestamp that is read back is the regular one of
those that show alike. `Migration.create_readBack` says so, and `Migration.readBack_runningOn` has a
migration that is read back as another one.
-/

namespace SchemaDdl

open Calendar (DateTime Fraction)

namespace Migration

/-- What a text says about a migration, with a label of any length. -/
structure Draft where
  timestamp : DateTime
  label : String
  tag : Option String
deriving DecidableEq, Repr

namespace Draft

/-- The migration of a draft, unless its label is too long. -/
def migration (d : Draft) : Except DdlError Migration := create d.timestamp d.label d.tag

/-- The fields of a draft as they are written, without a tag if it has none. -/
def texts (d : Draft) : List (String × String) :=
  [("timestamp", d.timestamp.text "T" .asNeeded), ("module", d.label)] ++
    (d.tag.map fun tag => ("tag", tag)).toList

/-- A draft as migrations are written. -/
def toJson (d : Draft) : Json := .ofTexts d.texts

/-- Reads a draft; the label may be missing, and so may the tag. -/
def ofJson? (value : Json) : Option Draft := do
  let fields ← value.record? ["timestamp", "module", "tag"]
  let timestamp ← (← fields.text? "timestamp") |> DateTime.ofText?
  let label ← fields.optional "module" Json.string? ""
  let tag ← fields.nameOrNone? "tag"
  return ⟨timestamp, label, tag⟩

def ofText? (s : String) : Option Draft := (Json.ofText? .kept s).bind ofJson?

/-- The record that a written draft is. -/
def record (d : Draft) : Json.Record := ⟨d.texts.map fun m => (m.1, .string m.2)⟩

theorem record?_toJson (d : Draft) :
    d.toJson.record? ["timestamp", "module", "tag"] = some d.record := by
  obtain ⟨timestamp, label, tag⟩ := d
  cases tag <;> rfl

/-- The draft with the regular timestamp of those that show alike. -/
def regular (d : Draft) : Draft := { d with timestamp := d.timestamp.regular }

theorem ofJson?_toJson (d : Draft) : ofJson? d.toJson = some d.regular := by
  have hreadable : Fraction.asNeeded.Readable := trivial
  have htimestamp : DateTime.ofText? (d.timestamp.text "T" .asNeeded) =
      some d.timestamp.regular := by
    rw [d.timestamp.ofText?_text hreadable, Fraction.unit, DateTime.truncate_one]
  have htext : d.record.text? "timestamp" = some (d.timestamp.text "T" .asNeeded) := rfl
  have hlabel : d.record.optional "module" Json.string? "" = some d.label := rfl
  have htag : d.record.nameOrNone? "tag" = some d.tag := by
    obtain ⟨timestamp, label, tag⟩ := d
    cases tag <;> rfl
  simp only [ofJson?, record?_toJson, htext, htimestamp, hlabel, htag, Option.bind_eq_bind,
    Option.bind_some, Option.pure_def, regular]

theorem ofText?_compact (d : Draft) : ofText? d.toJson.compact = some d.regular := by
  rw [ofText?, toJson, Json.ofText?_compact_ofTexts, Option.bind_some]
  exact ofJson?_toJson d

end Draft

/-- The draft of a migration: its fields. -/
def draft (m : Migration) : Draft := ⟨m.timestamp, m.label, m.tag⟩

theorem toJson_draft (m : Migration) : m.draft.toJson = m.toJson := by
  obtain ⟨timestamp, label, tag, hlabel⟩ := m
  cases tag <;> rfl

namespace Draft

theorem migration_eq_ok_iff {d : Draft} {m : Migration} : d.migration = .ok m ↔ m.draft = d := by
  obtain ⟨timestamp, label, tag, hlabel⟩ := m
  rw [migration, create]
  constructor
  · intro h
    split at h
    · cases Except.ok.inj h
      rfl
    · cases h
  · rintro rfl
    exact dif_pos hlabel

theorem exists_migration_iff {d : Draft} : (∃ m, d.migration = .ok m) ↔ d.label.length ≤ 250 := by
  constructor
  · rintro ⟨m, hm⟩
    rw [← migration_eq_ok_iff.mp hm]
    exact m.label_le
  · intro hlabel
    exact ⟨⟨d.timestamp, d.label, d.tag, hlabel⟩, migration_eq_ok_iff.mpr rfl⟩

theorem migration_eq_error {d : Draft} (h : 250 < d.label.length) :
    d.migration = .error (.labelTooLong d.label.length 250) :=
  dif_neg (Nat.not_le_of_lt h)

theorem toOption_migration {d : Draft} {m : Migration} :
    d.migration.toOption = some m ↔ d.migration = .ok m := by
  cases d.migration <;> simp [Except.toOption]

end Draft

/-- A text is read as the draft in it, and that as the migration it makes. -/
theorem ofText?_eq_bind (s : String) :
    ofText? s = (Draft.ofText? s).bind fun d => d.migration.toOption := by
  simp only [ofText?, Draft.ofText?, Draft.ofJson?, Option.bind_eq_bind, Option.bind_assoc]
  rfl

/-- The texts of a migration are those of its draft. -/
theorem ofText?_eq_some_iff {s : String} {m : Migration} :
    ofText? s = some m ↔ Draft.ofText? s = some m.draft := by
  rw [ofText?_eq_bind, Option.bind_eq_some_iff]
  simp only [Draft.toOption_migration, Draft.migration_eq_ok_iff]
  constructor
  · rintro ⟨d, hread, rfl⟩
    exact hread
  · intro hread
    exact ⟨m.draft, hread, rfl⟩

/-- The migration with the regular timestamp of those that show alike. -/
def regular (m : Migration) : Migration := { m with timestamp := m.timestamp.regular }

theorem ofText?_compact (m : Migration) : ofText? m.toJson.compact = some m.regular := by
  rw [ofText?_eq_some_iff, ← toJson_draft]
  exact m.draft.ofText?_compact

theorem regular_eq_self_iff {m : Migration} : m.regular = m ↔ m.timestamp.time.IsRegular := by
  obtain ⟨⟨date, time⟩, label, tag, hlabel⟩ := m
  rw [← Calendar.Time.regular_eq_self_iff]
  simp [regular, DateTime.regular]

/-- A timestamp that is not regular is read back with another second. -/
theorem version_regular_eq_iff {m : Migration} :
    m.regular.version = m.version ↔ m.timestamp.time.IsRegular := by
  rw [← Calendar.Time.second_regular_eq_iff]
  simp only [version, regular, DateTime.regular, Calendar.Time.hour_regular,
    Calendar.Time.minute_regular]
  omega

/-- The texts of drafts that are refused are those with labels that are too long. -/
theorem exists_ofText?_iff {s : String} {d : Draft} (h : Draft.ofText? s = some d) :
    (∃ m, ofText? s = some m) ↔ d.label.length ≤ 250 := by
  rw [← Draft.exists_migration_iff, ofText?_eq_bind, h, Option.bind_some]
  simp only [Draft.toOption_migration]

/-- A migration is made exactly with a label of at most 250 characters. Its text is read as a
migration with the same label and tag and with the regular timestamp of that text, so that migration
and version are the same exactly if no second runs on before the end of its minute. A text is never
read as a migration with a longer label. -/
theorem create_readBack (timestamp : DateTime) (label : String) (tag : Option String) :
    ((∃ m, create timestamp label tag = .ok m) ↔ label.length ≤ 250) ∧
    (250 < label.length →
      create timestamp label tag = .error (.labelTooLong label.length 250)) ∧
    (∀ m, create timestamp label tag = .ok m →
      (m.timestamp = timestamp ∧ m.label = label ∧ m.tag = tag) ∧
      ∃ m', ofText? m.toJson.compact = some m' ∧
        (m'.timestamp = timestamp.regular ∧ m'.label = label ∧ m'.tag = tag) ∧
        (m' = m ↔ timestamp.time.IsRegular) ∧
        (m'.version = m.version ↔ timestamp.time.IsRegular)) ∧
    (∀ s m, ofText? s = some m → Draft.ofText? s = some m.draft ∧ m.label.length ≤ 250) ∧
    (∀ s d, Draft.ofText? s = some d → ((∃ m, ofText? s = some m) ↔ d.label.length ≤ 250)) := by
  refine ⟨Draft.exists_migration_iff (d := ⟨timestamp, label, tag⟩), ?_, ?_, ?_, ?_⟩
  · intro hlabel
    exact Draft.migration_eq_error (d := ⟨timestamp, label, tag⟩) hlabel
  · intro m hm
    have hdraft : m.draft = ⟨timestamp, label, tag⟩ := Draft.migration_eq_ok_iff.mp hm
    have hfields : m.timestamp = timestamp ∧ m.label = label ∧ m.tag = tag := by
      simpa [draft] using hdraft
    obtain ⟨rfl, rfl, rfl⟩ := hfields
    exact ⟨⟨rfl, rfl, rfl⟩, m.regular, m.ofText?_compact, ⟨rfl, rfl, rfl⟩, regular_eq_self_iff,
      version_regular_eq_iff⟩
  · intro s m hread
    exact ⟨ofText?_eq_some_iff.mp hread, m.label_le⟩
  · intro s d hread
    exact exists_ofText?_iff hread

/-- A migration of the first day there is, with a leap second in its first minute. -/
def firstMinute : Migration where
  timestamp :=
    { date := ⟨-262143, 1, 1, by decide, by decide, by decide⟩
      time := (Calendar.Time.ofShown? 0 0 60 1000).get (by decide) }
  label := "\"café\"\n"
  tag := some ""
  label_le := by decide

/-- A leap second is written as 60 and counts as 59 in the version. -/
theorem create_readBack_leapSecond :
    firstMinute.toJson.compact =
      "\x7b\"timestamp\":\"-262143-01-01T00:00:60.000001\"," ++
        "\"module\":\"\\\"café\\\"\\n\",\"tag\":\"\"\x7d" ∧
    ∃ m, ofText? firstMinute.toJson.compact = some m ∧
      m = firstMinute ∧ m.version = -2621429898999941 := by
  obtain ⟨-, -, hread, -, -⟩ := create_readBack firstMinute.timestamp "\"café\"\n" (some "")
  have hregular : firstMinute.timestamp.time.IsRegular := by decide
  obtain ⟨-, m, htext, -, hsame, hversion⟩ := hread firstMinute rfl
  exact ⟨by decide +kernel, m, htext, hsame.mpr hregular,
    (hversion.mpr hregular).trans (by decide)⟩

/-- A migration of a moment in the second 12 of a minute, which runs on by six tenths of a
second. -/
def runningOn : Migration where
  timestamp :=
    { date := ⟨2012, 7, 1, by decide, by decide, by decide⟩
      time := ⟨10, 42, 12, 1600000000, by decide, by decide, by decide, by decide⟩ }
  label := "ledger"
  tag := none
  label_le := by decide

/-- The migration is made, and read back with a timestamp and a version of the next second. -/
theorem readBack_runningOn :
    create runningOn.timestamp "ledger" none = .ok runningOn ∧
    runningOn.toJson.compact =
      "\x7b\"timestamp\":\"2012-07-01T10:42:13.600\",\"module\":\"ledger\"\x7d" ∧
    ofText? runningOn.toJson.compact = some runningOn.regular ∧
    (runningOn.regular.timestamp.time.second = 13 ∧
      runningOn.regular.timestamp.time.nanosecond = 600000000) ∧
    runningOn.regular ≠ runningOn ∧
    runningOn.version = 20120701104212 ∧ runningOn.regular.version = 20120701104213 :=
  ⟨rfl, by decide +kernel, runningOn.ofText?_compact, ⟨by decide, by decide⟩, by decide,
    by decide, by decide⟩

end Migration

end SchemaDdl
