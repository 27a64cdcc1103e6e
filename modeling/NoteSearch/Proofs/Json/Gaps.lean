-- SUMMARY: Documents in bytes: a text in UTF-8 is read as it is, and a gap takes a string its text.
import NoteSearch.Proofs.Json.Documents
import NoteSearch.Proofs.Text.Utf8

/-!
# Documents in bytes

The bytes of a text hold the document of the text. Bytes that spell no character leave a gap. A
string with a gap is a string all the same, and what comes behind it is not affected, but it spells
no text: only where nobody asks for its text can it stand.
-/

namespace NoteSearch.Json.Tree

open Token

/-! ## Texts without gaps -/

theorem mended_map_some (escaped : Bool) (chars : List Char) :
    mended escaped (chars.map some) = chars := by
  induction chars generalizing escaped with
  | nil => rfl
  | cons c cs ih => rw [List.map_cons, mended, ih]

/-- The bytes of a text hold its document. -/
theorem ofBytes?_encode (text : String) :
    ofBytes? (text.toList.flatMap String.utf8EncodeChar) = ofText? text := by
  rw [ofBytes?, Text.Utf8.read_encode, mended_map_some, ofText?]

/-! ## Strings with a gap -/

/-- Behind a character as it is written, no escape is left open. -/
theorem mended_writeChar (c : Char) (t : List (Option Char)) :
    mended false ((writeChar c).map some ++ t) = writeChar c ++ mended false t := by
  have hhex : ∀ n < 16, (Text.lowerHex n == '\\') = false := by decide
  unfold writeChar
  iterate 7
    split
    · simp [mended]
  split
  · rename_i hcontrol
    simp [mended, hhex (c.toNat / 16) (by omega), hhex (c.toNat % 16) (by omega)]
  · rename_i hescape _ _ _ _ _ _
    simp [mended, beq_eq_false_iff_ne.2 hescape]

theorem mended_flatMap_writeChar (chars : List Char) (t : List (Option Char)) :
    mended false ((chars.flatMap writeChar).map some ++ t) =
      chars.flatMap writeChar ++ mended false t := by
  induction chars with
  | nil => rfl
  | cons c cs ih =>
    rw [List.flatMap_cons, List.map_append, List.append_assoc, mended_writeChar, ih,
      List.append_assoc]

theorem pieces?_append {first t rest : List Char} {pieces : List Piece}
    (h : pieces? t = some (pieces, rest)) :
    pieces? (first.flatMap writeChar ++ t) = some (first.map .char ++ pieces, rest) := by
  induction first with
  | nil => exact h
  | cons c cs ih =>
    rw [List.flatMap_cons, List.append_assoc, pieces?_writeChar, ih]
    rfl

/-- A half of a surrogate pair behind another one is never the other half. -/
theorem spell?_gap (first : List Char) (m n : Nat) (pieces : List Piece) :
    spell? (first.map .char ++ .high m :: .high n :: pieces) = none := by
  induction first with
  | nil => rfl
  | cons c cs ih =>
    rw [List.map_cons, List.cons_append, spell?, ih]
    rfl

theorem string?_gap (first last rest : List Char) :
    string? (mended false ((first.flatMap writeChar).map some ++
      none :: (last.flatMap writeChar ++ '"' :: rest).map some)) =
      some (Token.string none, rest) := by
  have hgap : pieces? (halves ++ (last.flatMap writeChar ++ '"' :: rest)) =
      some (.high 0xD800 :: .high 0xD800 :: last.map .char, rest) := by
    have hlast := pieces?_flatMap_writeChar last rest
    have hhalf : hex4? 'd' '8' '0' '0' = some 0xD800 := by decide
    simp [halves, pieces?, hhalf, hlast, Piece.ofUnit]
  rw [mended_flatMap_writeChar, mended, mended_map_some, string?, pieces?_append hgap]
  simp only [Option.map_some, spell?_gap, Option.map_none]

end NoteSearch.Json.Tree
