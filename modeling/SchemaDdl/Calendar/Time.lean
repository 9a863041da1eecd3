import SchemaDdl.Text.Digits

/-!
# Times of day

A time of day to the nanosecond. A second may run on into a leap second, for up to two seconds in
all; a clock then shows the second after it, which is the second 60 at the end of a minute.
-/

namespace SchemaDdl.Calendar

structure Time where
  hour : Nat
  minute : Nat
  second : Nat
  /-- Counts on from 1000000000 where the second runs on. -/
  nanosecond : Nat
  hour_lt : hour < 24
  minute_lt : minute < 60
  second_lt : second < 60
  nanosecond_lt : nanosecond < 2000000000
deriving DecidableEq, Repr

/-- How much of the fraction of a second is written. -/
inductive Fraction where
  /-- Nothing, or three, six or nine digits: the fewest that lose nothing. -/
  | asNeeded
  /-- Always this many digits, of at most nine; the rest is cut off. -/
  | places (count : Nat)
deriving DecidableEq, Repr

namespace Time

/-- The second that a clock shows, up to 60. -/
def shownSecond (t : Time) : Nat := t.second + t.nanosecond / 1000000000

/-- The nanosecond of the second that a clock shows. -/
def shownNanosecond (t : Time) : Nat := t.nanosecond % 1000000000

theorem shownNanosecond_lt (t : Time) : t.shownNanosecond < 1000000000 :=
  Nat.mod_lt _ (by decide)

/-- The time at which a clock shows these numbers, if they are in range. The second 60 is the second
59 that runs on. -/
def ofShown? (hour minute second nanosecond : Nat) : Option Time :=
  if h : hour < 24 ∧ minute < 60 ∧ second ≤ 60 ∧ nanosecond < 1000000000 then
    some
      { hour, minute
        second := min second 59
        nanosecond := if second = 60 then 1000000000 + nanosecond else nanosecond
        hour_lt := h.1
        minute_lt := h.2.1
        second_lt := by omega
        nanosecond_lt := by split <;> omega }
  else none

/-- The first `count` of the nine digits of a fraction of a second, behind a point. -/
def fractionDigits (count nanosecond : Nat) : String :=
  "." ++ String.ofList (Text.fixedDigits count (nanosecond / Nat.pow 10 (9 - count)))

def fractionText (t : Time) : Fraction → String
  | .asNeeded =>
    if t.shownNanosecond = 0 then ""
    else if t.shownNanosecond % 1000000 = 0 then fractionDigits 3 t.shownNanosecond
    else if t.shownNanosecond % 1000 = 0 then fractionDigits 6 t.shownNanosecond
    else fractionDigits 9 t.shownNanosecond
  | .places count => fractionDigits count t.shownNanosecond

/-- Hour, minute and second with colons, then the fraction, as a clock shows them. -/
def text (fraction : Fraction) (t : Time) : String :=
  Text.paddedNumber 2 t.hour ++ ":" ++ Text.paddedNumber 2 t.minute ++ ":" ++
    Text.paddedNumber 2 t.shownSecond ++ t.fractionText fraction

end Time

end SchemaDdl.Calendar
