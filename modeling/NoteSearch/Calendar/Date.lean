-- SUMMARY: Days of the proleptic Gregorian calendar, with their neighbours and their text form.
import NoteSearch.Text.Blank
import NoteSearch.Text.Numeral

/-!
# Dates

Days of the proleptic Gregorian calendar between two bounds. A date is written
`YYYY-MM-DD`; a year outside 0 to 9999 carries a sign and at least four digits. A reader
accepts more: blanks around the numbers and short months and days.
-/

namespace NoteSearch.Calendar

/-! ## The calendar -/

/-- Whether a year has a 29th of February. -/
def isLeapYear (year : Int) : Bool := year % 4 == 0 && (year % 100 != 0 || year % 400 == 0)

/-- The number of days of a month; zero for a number that is no month. -/
def daysInMonth (year : Int) (month : Nat) : Nat :=
  match month with
  | 1 | 3 | 5 | 7 | 8 | 10 | 12 => 31
  | 4 | 6 | 9 | 11 => 30
  | 2 => if isLeapYear year then 29 else 28
  | _ => 0

namespace Date

def minYear : Int := -262143

def maxYear : Int := 262142

def IsDay (year : Int) (month day : Nat) : Prop :=
  minYear ≤ year ∧ year ≤ maxYear ∧ 1 ≤ month ∧ month ≤ 12 ∧ 1 ≤ day ∧ day ≤ daysInMonth year month

instance (year : Int) (month day : Nat) : Decidable (IsDay year month day) :=
  inferInstanceAs (Decidable (_ ∧ _))

end Date

structure Date where
  year : Int
  month : Nat
  day : Nat
  isDay : Date.IsDay year month day
  deriving DecidableEq

namespace Date

def of? (year : Int) (month day : Nat) : Option Date :=
  if h : IsDay year month day then some ⟨year, month, day, h⟩ else none

/-! ## Neighbours -/

/-- The following day, if the calendar has one. -/
def next? (d : Date) : Option Date :=
  if d.day < daysInMonth d.year d.month then of? d.year d.month (d.day + 1)
  else if d.month < 12 then of? d.year (d.month + 1) 1
  else of? (d.year + 1) 1 1

/-- The preceding day, if the calendar has one. -/
def prev? (d : Date) : Option Date :=
  if 1 < d.day then of? d.year d.month (d.day - 1)
  else if 1 < d.month then of? d.year (d.month - 1) (daysInMonth d.year (d.month - 1))
  else of? (d.year - 1) 12 31

/-! ## Text -/

def writeYear (year : Int) : List Char :=
  if 0 ≤ year ∧ year ≤ 9999 then Text.padded 4 year.natAbs
  else (if year < 0 then '-' else '+') :: Text.padded 4 year.natAbs

def write (d : Date) : List Char :=
  writeYear d.year ++ '-' :: Text.padded 2 d.month ++ '-' :: Text.padded 2 d.day

def toText (d : Date) : String := String.ofList d.write

/-- Reads a year: a sign and any number of digits, or one to four digits. -/
def readYear? : List Char → Option (Int × List Char)
  | '-' :: t => (Text.numeral? t.length t).map fun (n, rest) => (-(n : Int), rest)
  | '+' :: t => (Text.numeral? t.length t).map fun (n, rest) => ((n : Int), rest)
  | t => (Text.numeral? 4 t).map fun (n, rest) => ((n : Int), rest)

/-- Reads a date. Blanks may stand around each number, and month and day may have one digit. -/
def read? (t : List Char) : Option Date := do
  let (year, t) ← readYear? (Text.trimStart t)
  let t ← Text.expect? '-' (Text.trimStart t)
  let (month, t) ← Text.numeral? 2 (Text.trimStart t)
  let t ← Text.expect? '-' (Text.trimStart t)
  let (day, t) ← Text.numeral? 2 (Text.trimStart t)
  if (Text.trimStart t).isEmpty then of? year month day else none

def ofText? (s : String) : Option Date := read? s.toList

end Date

end NoteSearch.Calendar
