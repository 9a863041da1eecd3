import SchemaDdl.Error

/-!
# Migrations

A migration is identified by the moment it was written, from which its version is made, and by a
label that groups the migrations that are applied together.
-/

namespace SchemaDdl

open Calendar (DateTime)

/-- The longest label of a migration, in characters. -/
def Migration.maxLabelLength : Nat := 250

structure Migration where
  timestamp : DateTime
  /-- The label of the module, empty for the default module. -/
  label : String
  tag : Option String
  label_le : label.length ≤ Migration.maxLabelLength
deriving DecidableEq, Repr

namespace Migration

/-- The migration with these fields, unless the label is too long. -/
def create (timestamp : DateTime) (label : String) (tag : Option String) :
    Except DdlError Migration :=
  if h : label.length ≤ maxLabelLength then .ok ⟨timestamp, label, tag, h⟩
  else .error (.labelTooLong label.length maxLabelLength)

/-- The version: year, month, day, hour, minute and second, with two decimal places for each but the
year. A second that runs on counts once. -/
def version (m : Migration) : Int :=
  let date := m.timestamp.date
  let time := m.timestamp.time
  (date.year * 10000 + date.month * 100 + date.day) * 1000000 +
    (time.hour * 10000 + time.minute * 100 + time.second)

end Migration

end SchemaDdl
