import SchemaDdl.Calendar.Date
import SchemaDdl.Calendar.Time

/-!
# Dates with a time of day

A day and a time of day, without a time zone.
-/

namespace SchemaDdl.Calendar

structure DateTime where
  date : Date
  time : Time
deriving DecidableEq, Repr

namespace DateTime

/-- Date and time with a separator between them. -/
def text (separator : String) (fraction : Fraction) (m : DateTime) : String :=
  m.date.iso ++ separator ++ m.time.text fraction

end DateTime

end SchemaDdl.Calendar
