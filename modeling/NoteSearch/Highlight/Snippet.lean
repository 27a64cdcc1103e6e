-- SUMMARY: Cutting a snippet to a number of characters.
import NoteSearch.Highlight.Scan

/-!
# Snippets

A result shows the start of its note. A longer text is cut after a number of characters and the
cut is shown by three dots.
-/

namespace NoteSearch.Highlight.Snippet

/-- The number of characters that a snippet shows where nothing else is asked for. -/
def defaultLimit : Nat := 300

/-- What stands in place of the characters that are cut off. -/
def ellipsis : List Char := ['.', '.', '.']

/-- The first `limit` characters and an ellipsis, or the whole text if it is not longer. -/
def cut (limit : Nat) (text : List Char) : List Char :=
  if text.length ≤ limit then text else text.take limit ++ ellipsis

def truncate (limit : Nat) (text : String) : String := String.ofList (cut limit text.toList)

/-! ## By bytes -/

/-- The byte offsets at which the characters of a text begin. -/
def offsetsFrom : (pos : Nat) → List Char → List Nat
  | _, [] => []
  | pos, c :: cs => pos :: offsetsFrom (pos + c.utf8Size) cs

/-- The byte offset of the first character that is cut off, if there is one. -/
def cutOffset? (limit : Nat) (text : String) : Option Nat := (offsetsFrom 0 text.toList)[limit]?

/-- The text up to a byte offset and an ellipsis, or the whole text if nothing is cut off. There is
no result if the offset is inside of a character. -/
def truncateBytes? (limit : Nat) (text : String) : Option String :=
  match cutOffset? limit text with
  | some offset => (slice? text 0 offset).map (· ++ String.ofList ellipsis)
  | none => some text

end NoteSearch.Highlight.Snippet
