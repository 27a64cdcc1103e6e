-- SUMMARY: Trimming is finished after one pass, and what it leaves of a text is blank as the text is.
import Mathlib.Data.List.DropRight
import NoteSearch.Text.Blank

/-!
# Trimmed texts

A trimmed text has no blanks at its ends, so trimming it again changes nothing. `IsTrimmed`
describes the texts that are kept under a name: trimmed ones with something in them.
-/

namespace NoteSearch.Text

theorem trimEnd_eq_rdropWhile (t : List Char) : trimEnd t = t.rdropWhile isBlank := rfl

/-- What is left of a text that starts with no blank starts with no blank. -/
theorem trimStart_trimEnd {t : List Char} (h : trimStart t = t) :
    trimStart (trimEnd t) = trimEnd t := by
  obtain ⟨blanks, hsplit⟩ := List.rdropWhile_prefix isBlank t
  rw [← trimEnd_eq_rdropWhile] at hsplit
  cases hleft : trimEnd t with
  | nil => rfl
  | cons c rest =>
    rw [hleft] at hsplit
    have hc : ¬ isBlank c = true := by
      rw [trimStart, ← hsplit, List.cons_append, List.dropWhile_eq_self_iff] at h
      exact h (by simp)
    exact List.dropWhile_cons_of_neg hc

theorem trim_trim (t : List Char) : trim (trim t) = trim t := by
  have hstart : trimStart (trimStart t) = trimStart t := List.dropWhile_idempotent isBlank t
  calc trimEnd (trimStart (trim t))
      = trimEnd (trim t) := by rw [trim, trimStart_trimEnd hstart]
    _ = trim t := List.rdropWhile_idempotent isBlank (trimStart t)

theorem trim_eq_nil_iff {t : List Char} : trim t = [] ↔ ∀ c ∈ t, isBlank c = true := by
  rw [trim, trimEnd_eq_rdropWhile, List.rdropWhile_eq_nil_iff]
  constructor
  · intro h
    rw [← List.takeWhile_append_dropWhile (p := isBlank) (l := t)]
    intro c hc
    rcases List.mem_append.1 hc with hc | hc
    · exact List.mem_takeWhile_imp hc
    · exact h c hc
  · intro h c hc
    exact h c ((List.dropWhile_sublist isBlank).subset hc)

/-! ## Strings -/

@[simp] theorem trimmed_trimmed (s : String) : trimmed (trimmed s) = trimmed s := by
  simp [trimmed, trim_trim]

theorem isBlankString_iff_trim {s : String} :
    isBlankString s = true ↔ trim s.toList = [] := by
  rw [trim_eq_nil_iff, isBlankString, List.all_eq_true]

@[simp] theorem isBlankString_trimmed (s : String) :
    isBlankString (trimmed s) = isBlankString s := by
  rw [Bool.eq_iff_iff, isBlankString_iff_trim, isBlankString_iff_trim, trimmed,
    String.toList_ofList, trim_trim]

theorem nonBlank?_trimmed {s : String} (h : trimmed s ≠ "") :
    nonBlank? (trimmed s) = some (trimmed s) :=
  if_neg fun hblank => h (trimmed_eq_empty_of_isBlankString hblank)

/-- A text in which something is left after trimming, and from which trimming takes nothing. -/
def IsTrimmed (s : String) : Prop := trimmedNonBlank? s = some s

theorem isTrimmed_iff {s : String} : IsTrimmed s ↔ isBlankString s = false ∧ trimmed s = s := by
  unfold IsTrimmed trimmedNonBlank?
  cases isBlankString s <;> simp

theorem isTrimmed_of_trimmedNonBlank? {s t : String} (h : trimmedNonBlank? s = some t) :
    IsTrimmed t := by
  unfold trimmedNonBlank? at h
  split at h
  · cases h
  · rename_i hblank
    cases h
    simp [IsTrimmed, trimmedNonBlank?, hblank]

end NoteSearch.Text
