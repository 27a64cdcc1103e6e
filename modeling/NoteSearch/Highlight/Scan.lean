-- SUMMARY: Reading a text by byte offsets: the ranges of its matches and the slices between them.
import NoteSearch.Highlight.Segments

/-!
# Scanning by bytes

A text is kept as bytes, and what is told of a match is the range of its bytes. A scan reads the
text from left to right and notes the ranges of the matches; the segments are the slices between
the ends of these ranges. A slice can only be taken where characters begin and end, so a wrong
offset leaves a scan or its segments without a result.
-/

namespace NoteSearch.Highlight

/-! ## Slices -/

/-- The text between two byte offsets, if both of them stand between characters. -/
def slice? (text : String) (start stop : Nat) : Option String :=
  if h : start ≤ stop ∧ String.Pos.Raw.IsValid text ⟨start⟩ ∧ String.Pos.Raw.IsValid text ⟨stop⟩
  then some (text.extract ⟨⟨start⟩, h.2.1⟩ ⟨⟨stop⟩, h.2.2⟩)
  else none

/-! ## Matches -/

/-- The characters of `text` that spell `wanted` exactly in lower case, in bytes. -/
def spelledBytes? : (text wanted : List Char) → Option Nat
  | _, [] => some 0
  | [], _ :: _ => none
  | c :: cs, w :: ws =>
    match (Text.lowerChar c).isPrefixOf? (w :: ws) with
    | some rest => (spelledBytes? cs rest).map (c.utf8Size + ·)
    | none => none

/-- How many bytes a match of `term` at the start of `text` takes. -/
def matchBytes? (text term : List Char) : Option Nat :=
  if term.isEmpty then none else spelledBytes? text term

def longestBytes? (terms : List (List Char)) (text : List Char) : Option Nat :=
  (terms.filterMap (matchBytes? text)).max?

/-! ## Matches letter by letter -/

/-- Takes the letters of one character off the wanted ones, as long as they are the same. -/
def takeLetters? : (letters wanted : List Char) → Option (List Char)
  | [], wanted => some wanted
  | _ :: _, [] => none
  | l :: ls, w :: ws => if w = l then takeLetters? ls ws else none

/-- Reads characters from the offset `pos` on until the wanted letters are used up, which is only
asked behind the last letter of a character. The answer is the offset there. -/
def spellFrom? (pos : Nat) : (text wanted : List Char) → Option Nat
  | [], _ => none
  | c :: cs, wanted =>
    match takeLetters? (Text.lowerChar c) wanted with
    | none => none
    | some [] => some (pos + c.utf8Size)
    | some (w :: ws) => spellFrom? (pos + c.utf8Size) cs (w :: ws)

/-- The offset at which a match of `term` at the start of `text` ends. -/
def matchOffset? (text term : String) : Option Nat :=
  if term.toList.isEmpty then none else spellFrom? 0 text.toList term.toList

/-! ## Scans -/

/-- A scan of a text, with the ranges of the matches that it has found. -/
inductive Scan where
  | reading (pos : Nat) (found : List (Nat × Nat))
  | finished (found : List (Nat × Nat))
  /-- The scan has come to an offset inside a character. -/
  | torn

/-- One round of a scan: it notes the longest match at its position, or passes one character. -/
def Scan.next (terms : List (List Char)) (text : String) : Scan → Scan
  | reading pos found =>
    match (slice? text pos text.utf8ByteSize).map String.toList with
    | none => torn
    | some [] => finished found
    | some (c :: cs) =>
      match longestBytes? terms (c :: cs) with
      | some n => reading (pos + n) (found ++ [(pos, pos + n)])
      | none => reading (pos + c.utf8Size) found
  | scan => scan

/-! ## Segments of ranges -/

/-- The plain segment between two offsets, if there is anything between them. -/
def plainBetween? (text : String) (start stop : Nat) : Option (List Segment) :=
  if start < stop then (slice? text start stop).map fun plain => [⟨plain, false⟩] else some []

/-- The segments from an offset on, where the ranges of the matches are given. -/
def segmentsFrom? (text : String) : (pos : Nat) → List (Nat × Nat) → Option (List Segment)
  | pos, [] => plainBetween? text pos text.utf8ByteSize
  | pos, (start, stop) :: ranges =>
    match plainBetween? text pos start, slice? text start stop, segmentsFrom? text stop ranges with
    | some plain, some marked, some rest => some (plain ++ ⟨marked, true⟩ :: rest)
    | _, _, _ => none

/-- The segments of a text in which the ranges of the matches are given. A text without any
segment is one plain segment. -/
def segmentsOfRanges? (text : String) (ranges : List (Nat × Nat)) : Option (List Segment) :=
  (segmentsFrom? text 0 ranges).map fun segs => if segs.isEmpty then [⟨text, false⟩] else segs

end NoteSearch.Highlight
