-- SUMMARY: Number literals: their parts, their integer value and their floating-point value.
/-!
# Numbers

A number literal is kept as it is written. Two readings give it a value: `toInt?` for literals
that are integers, and `toFloat?` for all that do not overflow. The floating-point reading takes
the leading digits that fit a 64-bit word and scales the word once by a power of ten; it may so
differ from the nearest double in the last bit.
-/

namespace NoteSearch.Json

structure Number where
  /-- Whether a minus sign stands in front. -/
  negative : Bool
  /-- The digits before the point. -/
  whole : List Char
  fraction : Option (List Char)
  /-- Whether the exponent is negative and its digits, if there is one. -/
  exponent : Option (Bool × List Char)
  deriving DecidableEq

namespace Number

def digitsValue (digits : List Char) : Nat := Nat.ofDigitChars 10 digits 0

def ofNat (n : Nat) : Number := ⟨false, Nat.toDigits 10 n, none, none⟩

def ofInt (i : Int) : Number := ⟨decide (i < 0), Nat.toDigits 10 i.natAbs, none, none⟩

/-! ## Integers -/

/-- The value of an integer literal. A negative zero is no integer. -/
def toInt? (n : Number) : Option Int :=
  match n.fraction, n.exponent with
  | none, none =>
    let magnitude := digitsValue n.whole
    if n.negative then if magnitude = 0 then none else some (-(magnitude : Int))
    else some magnitude
  | _, _ => none

/-! ## Floating point -/

def maxWord : Nat := UInt64.size - 1

/-- Appends digits to a significand as long as it fits a word. The second part of the answer
counts the digits that are left over. -/
def absorb (significand : Nat) : List Char → Nat × Nat
  | [] => (significand, 0)
  | d :: ds =>
    let next := significand * 10 + digitsValue [d]
    if next ≤ maxWord then absorb next ds else (significand, ds.length + 1)

def maxExponent : Nat := 2147483647

/-- Scales by a power of ten, in steps of what one double can hold; nothing if the result
overflows. -/
def scale (f : Float) (power : Int) : Option Float :=
  if power.natAbs ≤ 308 then
    if 0 ≤ power then
      let scaled := f * Float.ofScientific 1 false power.natAbs
      if scaled.isInf then none else some scaled
    else some (f / Float.ofScientific 1 false power.natAbs)
  else if f == 0 then some f
  else if 0 ≤ power then none
  else scale (f / Float.ofScientific 1 false 308) (power + 308)
  termination_by power.natAbs
  decreasing_by omega

/-- The magnitude of a literal, if it does not overflow. -/
def magnitude? (n : Number) : Option Float :=
  let (significand, left) := absorb 0 n.whole
  let fraction := n.fraction.getD []
  let (significand, unread) := absorb significand fraction
  let power : Int := (left : Int) - ((fraction.length : Int) - unread)
  let word := (UInt64.ofNat significand).toFloat
  match n.exponent with
  | none => scale word power
  | some (down, digits) =>
    let shift := digitsValue digits
    if maxExponent < shift then if significand = 0 ∨ down then some 0 else none
    else scale word (if down then power - shift else power + shift)

/-- The floating-point value of a literal, if it does not overflow. -/
def toFloat? (n : Number) : Option Float :=
  n.magnitude?.map fun f => if n.negative then -f else f

end Number

end NoteSearch.Json
