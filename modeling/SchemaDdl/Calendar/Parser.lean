import SchemaDdl.Calendar.DateTime
import SchemaDdl.Text.Blank

/-!
# Reading dates and times

A date is year, month and day with hyphens; a time is hour, minute and second with colons and an
optional fraction; a date and a time are joined by `T`. Blanks may stand before every number, before
every separator and at the end.
-/

namespace SchemaDdl.Calendar

/-- A step of reading: a value and the text behind it. -/
abbrev Reader (α : Type) := List Char → Option (α × List Char)

namespace Reader

/-- At most `limit` decimal digits from the front of a text, and what follows them. -/
def splitDigits : Nat → List Char → List Char × List Char
  | limit + 1, c :: rest =>
    if c.isDigit then
      let (digits, after) := splitDigits limit rest
      (c :: digits, after)
    else ([], c :: rest)
  | _, cs => ([], cs)

/-- A number of one to `limit` digits. -/
def number (limit : Nat) : Reader Nat := fun cs =>
  match splitDigits limit cs with
  | ([], _) => none
  | (digits, after) => some (Text.digitsValue digits, after)

/-- A number of one or two digits behind blanks. -/
def shortNumber : Reader Nat := fun cs => number 2 (Text.skipBlanks cs)

/-- A year behind blanks: up to four digits, or a sign and any number of digits. -/
def year : Reader Int := fun cs =>
  match Text.skipBlanks cs with
  | '-' :: rest => (number rest.length rest).map fun (n, after) => (-(n : Int), after)
  | '+' :: rest => (number rest.length rest).map fun (n, after) => ((n : Int), after)
  | rest => (number 4 rest).map fun (n, after) => ((n : Int), after)

/-- One separator, behind blanks. -/
def separator (c : Char) : Reader Unit := fun cs =>
  match Text.skipBlanks cs with
  | d :: rest => if d = c then some ((), rest) else none
  | [] => none

/-- The fraction of a second in nanoseconds: nothing, or a point and digits, of which the first nine
count. -/
def fraction : Reader Nat := fun cs =>
  match cs with
  | '.' :: rest =>
    match splitDigits 9 rest with
    | ([], _) => none
    | (digits, after) =>
      some (Text.digitsValue digits * Nat.pow 10 (9 - digits.length), after.dropWhile Char.isDigit)
  | _ => some (0, cs)

def date : Reader Date := fun cs => do
  let (y, cs) ← year cs
  let ((), cs) ← separator '-' cs
  let (m, cs) ← shortNumber cs
  let ((), cs) ← separator '-' cs
  let (d, cs) ← shortNumber cs
  return (← Date.ofFields? y m d, cs)

def hourMinute : Reader (Nat × Nat) := fun cs => do
  let (hour, cs) ← shortNumber cs
  let ((), cs) ← separator ':' cs
  let (minute, cs) ← shortNumber cs
  return ((hour, minute), cs)

/-- Second and nanosecond, behind a colon. -/
def secondFraction : Reader (Nat × Nat) := fun cs => do
  let ((), cs) ← separator ':' cs
  let (second, cs) ← shortNumber cs
  let (nanosecond, cs) ← fraction cs
  return ((second, nanosecond), cs)

def time : Reader Time := fun cs => do
  let ((hour, minute), cs) ← hourMinute cs
  let ((second, nanosecond), cs) ← secondFraction cs
  return (← Time.ofShown? hour minute second nanosecond, cs)

/-- The value of a text that holds nothing else, blanks at the end apart. -/
def whole? {α : Type} (reader : Reader α) (s : String) : Option α :=
  match reader s.toList with
  | some (value, rest) => if (Text.skipBlanks rest).isEmpty then some value else none
  | none => none

end Reader

def Date.ofText? (s : String) : Option Date := Reader.date.whole? s

/-- Reads a time of day; the seconds may be missing. -/
def Time.ofText? (s : String) : Option Time :=
  Reader.time.whole? s <|>
    (Reader.hourMinute.whole? s).bind fun (hour, minute) => Time.ofShown? hour minute 0 0

/-- Reads a date and a time of day, with the seconds. -/
def DateTime.ofText? (s : String) : Option DateTime :=
  Reader.whole? (fun cs => do
    let (date, cs) ← Reader.date cs
    let ((), cs) ← Reader.separator 'T' cs
    let (time, cs) ← Reader.time cs
    return (⟨date, time⟩, cs)) s

end SchemaDdl.Calendar
