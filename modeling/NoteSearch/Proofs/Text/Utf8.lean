-- SUMMARY: The bytes of a text are read as the text, without gaps.
import NoteSearch.Text.Utf8

/-!
# Texts and their bytes

The bytes of a character are read as the character again, whatever comes behind them. So the bytes
of a text are read as the text, and there is no gap.
-/

namespace NoteSearch.Text.Utf8

variable {b : Begun} {n : Nat}

theorem toNat_byte (h : n < 256) : (UInt8.ofNat n).toNat = n := by
  rw [UInt8.toNat_ofNat', Nat.mod_eq_of_lt h]

/-! ## One byte -/

theorem read_first (h : n < 256) (t : List UInt8) :
    read none (UInt8.ofNat n :: t) = (start n).1 ++ read (start n).2 t := by
  rw [read, toNat_byte h]

theorem read_next (h : n < 256) (hfits : b.least ≤ n ∧ n ≤ b.most) (hmore : 1 < b.missing)
    (t : List UInt8) : read (some b) (UInt8.ofNat n :: t) =
      read (some { bits := b.bits * 64 + n % 64, missing := b.missing - 1 }) t := by
  rw [read, toNat_byte h, if_pos hfits, if_neg (by omega)]

theorem read_last (h : n < 256) (hfits : b.least ≤ n ∧ n ≤ b.most) (hlast : b.missing ≤ 1)
    (t : List UInt8) : read (some b) (UInt8.ofNat n :: t) =
      some (Char.ofNat (b.bits * 64 + n % 64)) :: read none t := by
  rw [read, toNat_byte h, if_pos hfits, if_pos hlast]

/-! ## One character -/

variable {v : Nat}

theorem read_two (hleast : 0x80 ≤ v) (hmost : v < 0x800) (t : List UInt8) :
    read none (UInt8.ofNat (v / 64 % 32 + 192) :: UInt8.ofNat (v % 64 + 128) :: t) =
      some (Char.ofNat v) :: read none t := by
  rw [read_first (by omega), start, if_neg (by omega), if_pos (by omega), List.nil_append,
    read_last (by omega) (by dsimp only; omega) (Nat.le_refl 1)]
  congr 3
  dsimp only
  omega

/-- The bounds behind the first of three bytes leave out two bytes and surrogates, no more. -/
theorem read_three (hleast : 0x800 ≤ v) (hmost : v < 0x10000) (hvalid : v < 0xD800 ∨ 0xDFFF < v)
    (t : List UInt8) :
    read none (UInt8.ofNat (v / 4096 % 16 + 224) :: UInt8.ofNat (v / 64 % 64 + 128) ::
      UInt8.ofNat (v % 64 + 128) :: t) = some (Char.ofNat v) :: read none t := by
  rw [read_first (by omega), start, if_neg (by omega), if_neg (by omega), if_pos (by omega),
    List.nil_append,
    read_next (by omega) (by dsimp only; split <;> split <;> omega) (Nat.lt_succ_self 1),
    read_last (by omega) (by dsimp only; omega) (Nat.le_refl 1)]
  congr 3
  dsimp only
  omega

/-- The bounds behind the first of four bytes leave out three bytes and what is too large, no more.
-/
theorem read_four (hleast : 0x10000 ≤ v) (hmost : v < 0x110000) (t : List UInt8) :
    read none (UInt8.ofNat (v / 262144 % 8 + 240) :: UInt8.ofNat (v / 4096 % 64 + 128) ::
      UInt8.ofNat (v / 64 % 64 + 128) :: UInt8.ofNat (v % 64 + 128) :: t) =
      some (Char.ofNat v) :: read none t := by
  rw [read_first (by omega), start, if_neg (by omega), if_neg (by omega), if_neg (by omega),
    if_pos (by omega), List.nil_append,
    read_next (by omega) (by dsimp only; split <;> split <;> omega) (by dsimp only; omega),
    read_next (by omega) (by dsimp only; omega) (Nat.lt_succ_self 1),
    read_last (by omega) (by dsimp only; omega) (Nat.le_refl 1)]
  congr 3
  dsimp only
  omega

theorem read_encodeChar (c : Char) (t : List UInt8) :
    read none (String.utf8EncodeChar c ++ t) = some c :: read none t := by
  have hvalid : c.val.toNat < 0xD800 ∨ 0xDFFF < c.val.toNat ∧ c.val.toNat < 0x110000 := c.valid
  have hself : Char.ofNat c.val.toNat = c := Char.ofNat_toNat c
  rw [String.utf8EncodeChar]
  generalize c.val.toNat = v at hvalid hself
  subst hself
  split
  · rw [List.singleton_append, read_first (by omega), start, if_pos (by omega)]
    rfl
  · split
    · exact read_two (by omega) (by omega) t
    · split
      · exact read_three (by omega) (by omega) (by omega) t
      · exact read_four (by omega) (by omega) t

/-! ## Texts -/

theorem read_encode (chars : List Char) :
    read none (chars.flatMap String.utf8EncodeChar) = chars.map some := by
  induction chars with
  | nil => rfl
  | cons c cs ih => rw [List.flatMap_cons, read_encodeChar, ih, List.map_cons]

end NoteSearch.Text.Utf8
