-- SUMMARY: Cutting a text into pieces, and dropping marks around it.
/-!
# Pieces

A text is cut at every character of a class; what stands between two cuts is a piece. There is
one more piece than there are cuts, and two neighbouring cuts enclose an empty piece.
-/

namespace NoteSearch.Text

/-- The pieces between the characters that `isCut` picks out. -/
def pieces (isCut : Char → Bool) : List Char → List (List Char)
  | [] => [[]]
  | c :: cs =>
    if isCut c then [] :: pieces isCut cs
    else
      match pieces isCut cs with
      | [] => [[c]]
      | piece :: rest => (c :: piece) :: rest

@[simp] theorem pieces_nil (isCut : Char → Bool) : pieces isCut [] = [[]] := rfl

/-- Drops a byte order mark. -/
def dropMark : List Char → List Char
  | '\uFEFF' :: t => t
  | t => t

end NoteSearch.Text
