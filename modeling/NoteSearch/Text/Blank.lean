-- SUMMARY: Blank characters (the Unicode property White_Space), trimming, and words.
import NoteSearch.Text.Pieces

/-!
# Blank text

Which characters count as blank, and the operations that ignore them: trimming both ends of a
text and cutting it into words. The functions work on lists of characters; the last section
lifts them to strings.
-/

namespace NoteSearch.Text

/-! ## Blank characters -/

/-- The characters with the Unicode property White_Space. -/
def isBlank (c : Char) : Bool :=
  let n := c.toNat
  (9 ≤ n && n ≤ 13) || n == 0x20 || n == 0x85 || n == 0xA0 || n == 0x1680 ||
  (0x2000 ≤ n && n ≤ 0x200A) || n == 0x2028 || n == 0x2029 || n == 0x202F || n == 0x205F ||
  n == 0x3000

/-! ## Trimming -/

def trimStart (t : List Char) : List Char := t.dropWhile isBlank

def trimEnd (t : List Char) : List Char := (t.reverse.dropWhile isBlank).reverse

def trim (t : List Char) : List Char := trimEnd (trimStart t)

@[simp] theorem trimStart_nil : trimStart [] = [] := rfl
@[simp] theorem trimEnd_nil : trimEnd [] = [] := rfl
@[simp] theorem trim_nil : trim [] = [] := rfl

/-- A trimmed text ends with no blank, so it is empty or not blank. -/
theorem trimEnd_eq_nil_of_all_isBlank {t : List Char} (h : ∀ c ∈ trimEnd t, isBlank c = true) :
    trimEnd t = [] := by
  rw [trimEnd, List.reverse_eq_nil_iff]
  have hhead := List.head?_dropWhile_not isBlank t.reverse
  cases hdrop : t.reverse.dropWhile isBlank with
  | nil => rfl
  | cons c rest =>
    rw [hdrop] at hhead
    have hc : isBlank c = true := h c (by simp [trimEnd, hdrop])
    simp [hc] at hhead

/-! ## Words -/

/-- The words of a text: the longest stretches without a blank. -/
def words (t : List Char) : List (List Char) :=
  (pieces isBlank t).filter fun piece => !piece.isEmpty

/-! ## Strings -/

/-- The string without the blanks at both ends. -/
def trimmed (s : String) : String := String.ofList (trim s.toList)

/-- Whether a string holds nothing but blanks. -/
def isBlankString (s : String) : Bool := s.toList.all isBlank

/-- The string itself, unless it is blank. -/
def nonBlank? (s : String) : Option String := if isBlankString s then none else some s

/-- The trimmed string, unless nothing is left of it. -/
def trimmedNonBlank? (s : String) : Option String :=
  if isBlankString s then none else some (trimmed s)

theorem trimmed_eq_empty_of_isBlankString {s : String} (h : isBlankString (trimmed s) = true) :
    trimmed s = "" := by
  have hblank : ∀ c ∈ trim s.toList, isBlank c = true := by
    simpa [isBlankString, trimmed] using h
  simp [trimmed, trim, trimEnd_eq_nil_of_all_isBlank hblank]

end NoteSearch.Text
