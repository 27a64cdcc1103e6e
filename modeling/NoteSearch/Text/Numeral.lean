-- SUMMARY: Decimal numerals: writing with leading zeros and reading a bounded number of digits.
/-!
# Decimal numerals

Numbers as they stand in dates, times and other formats: a numeral has ASCII digits only, may be
filled with zeros from the left, and is read with a bound on the number of its digits.
-/

namespace NoteSearch.Text

/-- The numeral of `n`, filled with zeros to at least `width` digits. -/
def padded (width n : Nat) : List Char :=
  let digits := Nat.toDigits 10 n
  List.replicate (width - digits.length) '0' ++ digits

/-- Reads the longest numeral at the start of `t`, of one to `most` digits. -/
def numeral? (most : Nat) (t : List Char) : Option (Nat × List Char) :=
  let digits := (t.take most).takeWhile Char.isDigit
  if digits.isEmpty then none else some (Nat.ofDigitChars 10 digits 0, t.drop digits.length)

/-- Reads a numeral of exactly `count` digits at the start of `t`. -/
def fixedNumeral? (count : Nat) (t : List Char) : Option (Nat × List Char) :=
  let digits := (t.take count).takeWhile Char.isDigit
  if digits.length = count then some (Nat.ofDigitChars 10 digits 0, t.drop count) else none

def expect? (c : Char) : List Char → Option (List Char)
  | [] => none
  | d :: t => if d = c then some t else none

end NoteSearch.Text
