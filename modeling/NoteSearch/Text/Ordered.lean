-- SUMMARY: Strictly increasing lists of texts.
/-!
# Ordered lists of texts

A set of texts is shown as a list in strictly increasing order of code points. `Text.ordered`
brings any list into this form; it keeps the members and drops repetitions.
-/

namespace NoteSearch.Text

/-- Puts a text into an increasing list, unless it is there. -/
def insertOrdered (s : String) : List String → List String
  | [] => [s]
  | other :: rest =>
    if s < other then s :: other :: rest
    else if s = other then other :: rest
    else other :: insertOrdered s rest

theorem mem_insertOrdered {s x : String} {l : List String} :
    x ∈ insertOrdered s l ↔ x = s ∨ x ∈ l := by
  induction l with
  | nil => simp [insertOrdered]
  | cons other rest ih =>
    simp only [insertOrdered]
    split
    · simp
    · split
      · rename_i h; simp [h]
      · simp only [List.mem_cons, ih]; grind

theorem pairwise_insertOrdered {s : String} {l : List String} (h : l.Pairwise (· < ·)) :
    (insertOrdered s l).Pairwise (· < ·) := by
  induction l with
  | nil => simp [insertOrdered]
  | cons other rest ih =>
    rw [List.pairwise_cons] at h
    simp only [insertOrdered]
    split
    · rename_i hlt
      exact .cons (fun x hx => by
        rcases List.mem_cons.1 hx with rfl | hx
        · exact hlt
        · exact String.lt_trans hlt (h.1 x hx)) (.cons h.1 h.2)
    · split
      · exact .cons h.1 h.2
      · rename_i hlt hne
        refine .cons (fun x hx => ?_) (ih h.2)
        rcases mem_insertOrdered.1 hx with rfl | hx
        · exact Std.lt_of_le_of_ne (Std.not_lt.1 hlt) (Ne.symm hne)
        · exact h.1 x hx

/-- The members of a list in strictly increasing order. -/
def ordered (l : List String) : List String := l.foldr insertOrdered []

theorem mem_ordered {x : String} {l : List String} : x ∈ ordered l ↔ x ∈ l := by
  induction l with
  | nil => simp [ordered]
  | cons s rest ih =>
    simp only [ordered, List.foldr_cons] at ih ⊢
    simp [mem_insertOrdered, ih]

theorem pairwise_ordered (l : List String) : (ordered l).Pairwise (· < ·) := by
  induction l with
  | nil => simp [ordered]
  | cons s rest ih => exact pairwise_insertOrdered ih

end NoteSearch.Text
