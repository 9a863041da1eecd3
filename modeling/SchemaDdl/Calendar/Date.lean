import SchemaDdl.Text.Digits

/-!
# Dates

Days of the proleptic Gregorian calendar, from the year -262143 to the year 262142. A `Date` is a
day that exists: its fields carry the proof.
-/

namespace SchemaDdl.Calendar

def isLeapYear (year : Int) : Bool :=
  year % 4 == 0 && (year % 100 != 0 || year % 400 == 0)

def daysInMonth (year : Int) (month : Nat) : Nat :=
  match month with
  | 2 => if isLeapYear year then 29 else 28
  | 4 | 6 | 9 | 11 => 30
  | _ => 31

structure Date where
  year : Int
  month : Nat
  day : Nat
  year_mem : -262143 ≤ year ∧ year ≤ 262142
  month_mem : 1 ≤ month ∧ month ≤ 12
  day_mem : 1 ≤ day ∧ day ≤ daysInMonth year month
deriving DecidableEq, Repr

namespace Date

/-- The day with these fields, if the calendar has it. -/
def ofFields? (year : Int) (month day : Nat) : Option Date :=
  if h : (-262143 ≤ year ∧ year ≤ 262142) ∧ (1 ≤ month ∧ month ≤ 12) ∧
      (1 ≤ day ∧ day ≤ daysInMonth year month) then
    some ⟨year, month, day, h.1, h.2.1, h.2.2⟩
  else none

@[simp] theorem ofFields?_self (d : Date) : ofFields? d.year d.month d.day = some d := by
  simp [ofFields?, d.year_mem, d.month_mem, d.day_mem]

/-- A year in at least four digits, with a sign before the year 0 and after the year 9999. -/
def yearText (year : Int) : String :=
  let digits := Text.paddedNumber 4 year.natAbs
  if year < 0 then "-" ++ digits else if 9999 < year then "+" ++ digits else digits

/-- Year, month and day with a separator between them. -/
def text (separator : String) (d : Date) : String :=
  yearText d.year ++ separator ++ Text.paddedNumber 2 d.month ++ separator ++
    Text.paddedNumber 2 d.day

/-- The date as `2024-03-09`. -/
def iso (d : Date) : String := d.text "-"

/-- The date as `20240309`. -/
def compact (d : Date) : String := d.text ""

end Date

end SchemaDdl.Calendar
