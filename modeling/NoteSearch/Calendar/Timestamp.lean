-- SUMMARY: Instants in universal time, with leap seconds, and their text forms.
import NoteSearch.Calendar.Date

/-!
# Timestamps

An instant is a day and a time of that day in universal time. A leap second is the last second
of its minute with a fraction of one second or more. Instants are written in the form of
RFC 3339; a reader also accepts a plain date and time, which it takes as universal time.
-/

namespace NoteSearch.Calendar

def secondsPerDay : Nat := 86400

def nanosPerSecond : Nat := 1000000000

structure Timestamp where
  date : Date
  /-- Whole seconds since midnight. -/
  second : Nat
  /-- Nanoseconds since that second, more than a second's worth inside a leap second. -/
  nanos : Nat
  second_lt : second < secondsPerDay
  nanos_lt : nanos < 2 * nanosPerSecond
  leap : nanosPerSecond ≤ nanos → second % 60 = 59
  deriving DecidableEq

namespace Timestamp

/-! ## Wall-clock readings -/

/-- The time of day as a clock shows it: the second is 60 during a leap second. -/
structure Clock where
  hour : Nat
  minute : Nat
  second : Nat
  nanos : Nat
  deriving DecidableEq

def Clock.IsTime (c : Clock) : Prop :=
  c.hour < 24 ∧ c.minute < 60 ∧ c.second ≤ 60 ∧ c.nanos < nanosPerSecond

instance (c : Clock) : Decidable c.IsTime := inferInstanceAs (Decidable (_ ∧ _))

/-- The instant at which a clock in universal time shows `c` on day `d`. -/
def ofClock (d : Date) (c : Clock) (h : c.IsTime) : Timestamp where
  date := d
  second := c.hour * 3600 + c.minute * 60 + min c.second 59
  nanos := c.nanos + if c.second = 60 then nanosPerSecond else 0
  second_lt := by
    have := h.1; have := h.2.1; simp only [secondsPerDay]; omega
  nanos_lt := by
    have := h.2.2.2; split <;> omega
  leap := by
    intro hn
    have := h.2.2.2
    split at hn
    · omega
    · omega

/-- The instant at which a clock in universal time shows `c` on day `d`, if a clock can. -/
def ofClock? (d : Date) (c : Clock) : Option Timestamp :=
  if h : c.IsTime then some (ofClock d c h) else none

/-- What a clock in universal time shows at an instant. -/
def clock (t : Timestamp) : Clock where
  hour := t.second / 3600
  minute := t.second / 60 % 60
  second := if t.nanos < nanosPerSecond then t.second % 60 else 60
  nanos := t.nanos % nanosPerSecond

/-! ## Offsets -/

/-- The instant `minutes` earlier. Offsets reach less than a day, so at most one midnight lies
between. -/
def minusMinutes? (t : Timestamp) (minutes : Int) : Option Timestamp :=
  let moved : Int := t.second - minutes * 60
  let inDay := (moved % secondsPerDay).toNat
  let date? :=
    if moved < 0 then t.date.prev?
    else if (secondsPerDay : Int) ≤ moved then t.date.next?
    else some t.date
  date?.map fun date =>
    { date, second := inDay, nanos := t.nanos
      second_lt := by
        have : (0 : Int) < secondsPerDay := by decide
        have := Int.emod_lt_of_pos moved this
        have := Int.emod_nonneg moved (b := (secondsPerDay : Int)) (by decide)
        omega
      nanos_lt := t.nanos_lt
      leap := by
        intro hn
        have := t.leap hn
        simp only [inDay, moved, secondsPerDay]
        omega }

/-! ## Writing -/

/-- The fraction of a second: three, six or nine digits, whichever is the shortest exact one, and
nothing for a whole second. -/
def writeFraction (nanos : Nat) : List Char :=
  if nanos = 0 then []
  else if nanos % 1000000 = 0 then '.' :: Text.padded 3 (nanos / 1000000)
  else if nanos % 1000 = 0 then '.' :: Text.padded 6 (nanos / 1000)
  else '.' :: Text.padded 9 nanos

/-- The text of an instant, in universal time. -/
def write (t : Timestamp) : List Char :=
  let c := t.clock
  t.date.write ++ 'T' :: Text.padded 2 c.hour ++ ':' :: Text.padded 2 c.minute ++
    ':' :: Text.padded 2 c.second ++ writeFraction c.nanos ++ "+00:00".toList

def toText (t : Timestamp) : String := String.ofList t.write

/-! ## Reading -/

/-- Reads the digits of a fraction of a second; what follows the ninth digit is cut off. -/
def fractionDigits? (t : List Char) : Option (Nat × List Char) :=
  let digits := t.takeWhile Char.isDigit
  if digits.isEmpty then none
  else
    let kept := digits.take 9
    some (Nat.ofDigitChars 10 kept 0 * Nat.pow 10 (9 - kept.length), t.drop digits.length)

def readFraction? : List Char → Option (Nat × List Char)
  | '.' :: t => fractionDigits? t
  | t => some (0, t)

/-- The sign of an offset: plus, hyphen or the minus sign proper. -/
def offsetSign? : List Char → Option (Int × List Char)
  | '+' :: t => some (1, t)
  | '-' :: t => some (-1, t)
  | '\u2212' :: t => some (-1, t)
  | _ => none

/-- Reads an offset from universal time, in minutes: `Z`, or a sign, hours and minutes. -/
def readOffset? : List Char → Option (Int × List Char)
  | 'Z' :: t => some (0, t)
  | 'z' :: t => some (0, t)
  | t => do
    let (sign, t) ← offsetSign? t
    let (hours, t) ← Text.fixedNumeral? 2 t
    let t ← Text.expect? ':' t
    let (minutes, t) ← Text.fixedNumeral? 2 t
    if hours < 24 ∧ minutes < 60 then some (sign * (hours * 60 + minutes : Nat), t) else none

/-- Reads what stands between the date and the time of RFC 3339. -/
def separator? : List Char → Option (List Char)
  | 'T' :: t => some t
  | 't' :: t => some t
  | ' ' :: t => some t
  | _ => none

/-- Reads an instant in the form of RFC 3339. -/
def readInternet? (t : List Char) : Option Timestamp := do
  let (year, t) ← Text.fixedNumeral? 4 t
  let t ← Text.expect? '-' t
  let (month, t) ← Text.fixedNumeral? 2 t
  let t ← Text.expect? '-' t
  let (day, t) ← Text.fixedNumeral? 2 t
  let t ← separator? t
  let (hour, t) ← Text.fixedNumeral? 2 t
  let t ← Text.expect? ':' t
  let (minute, t) ← Text.fixedNumeral? 2 t
  let t ← Text.expect? ':' t
  let (second, t) ← Text.fixedNumeral? 2 t
  let (nanos, t) ← readFraction? t
  let (offset, t) ← readOffset? t
  let date ← Date.of? year month day
  let time ← ofClock? date ⟨hour, minute, second, nanos⟩
  if t.isEmpty then time.minusMinutes? offset else none

/-- Reads a date and a time without an offset, as universal time. Blanks may stand before each
number. -/
def readPlain? (t : List Char) : Option Timestamp := do
  let (year, t) ← Date.readYear? (Text.trimStart t)
  let t ← Text.expect? '-' t
  let (month, t) ← Text.numeral? 2 (Text.trimStart t)
  let t ← Text.expect? '-' t
  let (day, t) ← Text.numeral? 2 (Text.trimStart t)
  let t ← Text.expect? 'T' t
  let (hour, t) ← Text.numeral? 2 (Text.trimStart t)
  let t ← Text.expect? ':' t
  let (minute, t) ← Text.numeral? 2 (Text.trimStart t)
  let t ← Text.expect? ':' t
  let (second, t) ← Text.numeral? 2 (Text.trimStart t)
  let (nanos, t) ← readFraction? t
  let date ← Date.of? year month day
  let time ← ofClock? date ⟨hour, minute, second, nanos⟩
  if t.isEmpty then some time else none

/-- Reads an instant in either form. -/
def read? (t : List Char) : Option Timestamp := readInternet? t <|> readPlain? t

def ofText? (s : String) : Option Timestamp := read? s.toList

end Timestamp

end NoteSearch.Calendar
