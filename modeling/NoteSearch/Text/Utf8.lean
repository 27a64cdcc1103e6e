-- SUMMARY: Bytes in UTF-8 read one after another, with a gap where they spell no character.

/-!
# Bytes in UTF-8

A character is begun by its first byte, which tells how many bytes are missing and what the next one
may be. A byte that cannot stand where it does leaves a gap behind the character that it breaks off,
and may itself begin a character. So there is one gap for each longest stretch of bytes that could
have begun a character.
-/

namespace NoteSearch.Text.Utf8

/-- A character of which some bytes have been read: the bits so far, the number of bytes that are
missing, and the bounds of the next one. -/
structure Begun where
  bits : Nat
  missing : Nat
  least : Nat := 0x80
  most : Nat := 0xBF

/-- What a byte adds to the text where no character has been begun, and the character that it
begins. The bounds rule out long forms, halves of surrogate pairs and what is beyond the last
character. -/
def start (b : Nat) : List (Option Char) × Option Begun :=
  if b < 0x80 then ([some (Char.ofNat b)], none)
  else if 0xC2 ≤ b ∧ b < 0xE0 then ([], some { bits := b % 32, missing := 1 })
  else if 0xE0 ≤ b ∧ b < 0xF0 then
    ([], some
      { bits := b % 16, missing := 2, least := if b = 0xE0 then 0xA0 else 0x80,
        most := if b = 0xED then 0x9F else 0xBF })
  else if 0xF0 ≤ b ∧ b < 0xF5 then
    ([], some
      { bits := b % 8, missing := 3, least := if b = 0xF0 then 0x90 else 0x80,
        most := if b = 0xF4 then 0x8F else 0xBF })
  else ([none], none)

/-- The characters of bytes, behind a character that has been begun; `none` is a gap. -/
def read : Option Begun → List UInt8 → List (Option Char)
  | none, [] => []
  | some _, [] => [none]
  | none, b :: t => (start b.toNat).1 ++ read (start b.toNat).2 t
  | some c, b :: t =>
    if c.least ≤ b.toNat ∧ b.toNat ≤ c.most then
      let bits := c.bits * 64 + b.toNat % 64
      if c.missing ≤ 1 then some (Char.ofNat bits) :: read none t
      else read (some { bits, missing := c.missing - 1 }) t
    else none :: ((start b.toNat).1 ++ read (start b.toNat).2 t)

end NoteSearch.Text.Utf8
