-- SUMMARY: What keys do, to the list of completions and to the search box.
import NoteSearch.Session.Operations

/-!
# Keys

Escape and Enter are the keys that end something; all others move the selection, or do nothing.
The laws say it once for the list (`handleKey_escape`, `handleKey_enter`, `handleKey_other`) and
once for the search box, which passes some keys on to the list.
-/

namespace NoteSearch

namespace Suggestions

/-- The completion that Enter commits. -/
def committed? (s : Suggestions) : Option String :=
  if s.visible && !s.items.isEmpty then s.selected.bind s.textAt? else none

variable (w : Watched Suggestions)

theorem choose_of_textAt? {w : Watched Suggestions} {index : Nat} {text : String}
    (h : w.value.textAt? index = some text) : choose w index = (w.update dismiss, some text) := by
  simp [choose, h]

theorem choose_of_textAt?_eq_none {w : Watched Suggestions} {index : Nat}
    (h : w.value.textAt? index = none) : choose w index = (w, none) := by
  simp [choose, h]

theorem handleKey_escape : handleKey w .escape = (w.update dismiss, .dismissed) := by
  simp [handleKey]

/-- Enter commits the selected completion and dismisses the list. -/
theorem handleKey_enter : handleKey w .enter =
    match w.value.committed? with
    | some text => (w.update dismiss, .commit text)
    | none => (w, .ignored) := by
  unfold handleKey committed?
  rw [if_neg (by decide)]
  cases w.value.visible
  · simp
  cases w.value.items.isEmpty
  · cases w.value.selected with
    | none => rfl
    | some i =>
      cases htext : w.value.textAt? i with
      | none => simp [choose_of_textAt?_eq_none htext, htext]
      | some text => simp [choose_of_textAt? htext, htext]
  · simp

/-- Any other key has no use, or it moves the selection in a list that is not empty. -/
theorem handleKey_other {key : Key} (hescape : key ≠ .escape) (henter : key ≠ .enter) :
    handleKey w key = (w, .ignored) ∨
      w.value.items ≠ [] ∧ ∃ selected, handleKey w key = move w selected ∧
        (selected = below w.value.items.length w.value.selected ∨
          selected = above w.value.selected) := by
  unfold handleKey
  rw [if_neg hescape]
  split
  · exact .inl rfl
  · rename_i hlist
    have hitems : w.value.items ≠ [] := by
      intro hnil
      simp [hnil] at hlist
    cases key with
    | arrowDown => exact .inr ⟨hitems, _, rfl, .inl rfl⟩
    | arrowUp => exact .inr ⟨hitems, _, rfl, .inr rfl⟩
    | enter => exact absurd rfl henter
    | _ => exact .inl rfl

end Suggestions

namespace Session

variable {s : Session} {k : KeyPress}

/-- Escape and Enter are no part of the chord that gives the focus. -/
theorem isFocusChord_eq_false (h : k.key = .escape ∨ k.key = .enter) : k.isFocusChord = false := by
  rcases h with h | h <;> simp [KeyPress.isFocusChord, h]

theorem press_escape (op : OperationId) (hfocus : s.box.focused = true) (hkey : k.key = .escape) :
    s.press op k = s.clearBox op true := by
  simp [press, isFocusChord_eq_false (.inl hkey), hfocus, hkey]

/-- Enter commits the selected completion, or it submits the text. -/
theorem press_enter (op : OperationId) (hfocus : s.box.focused = true) (hkey : k.key = .enter) :
    s.press op k =
      match s.suggestions.value.committed? with
      | some text => (s.withSuggestions (s.suggestions.update (·.dismiss))).commit op text true
      | none =>
        if s.suggestions.value.visible then (s.withSuggestions s.suggestions).submit op true
        else s.submit op true := by
  simp only [press, isFocusChord_eq_false (.inr hkey), hfocus, hkey, suggestionPress,
    Suggestions.handleKey_enter]
  cases hvisible : s.suggestions.value.visible
  · simp [Suggestions.committed?, hvisible]
  · cases s.suggestions.value.committed? <;> rfl

/-- Any other key gives the focus to the box, or it is passed on to the list, or it has no use. -/
theorem press_other (op : OperationId)
    (h : ¬ (s.box.focused = true ∧ (k.key = .escape ∨ k.key = .enter))) :
    ∃ r, s.press op k = s.focus.finish op r ∨ s.press op k = s.finish op r ∨
      ∃ key, key ≠ .escape ∧ key ≠ .enter ∧
        s.press op k =
          (s.withSuggestions (Suggestions.handleKey s.suggestions key).1).finish op r := by
  have harrow (key : Key) (hescape : key ≠ .escape) (henter : key ≠ .enter) :
      ∃ r, s.suggestionPress op key =
        (s.withSuggestions (Suggestions.handleKey s.suggestions key).1).finish op r := by
    rcases Suggestions.handleKey_other s.suggestions hescape henter with hkey | ⟨-, i, hkey, -⟩
    · exact ⟨_, by rw [suggestionPress, hkey]; simp [henter]; rfl⟩
    · exact ⟨_, by rw [suggestionPress, hkey]; rfl⟩
  unfold press
  split
  · exact ⟨_, .inl rfl⟩
  split
  · exact ⟨_, .inr (.inl rfl)⟩
  rename_i hfocus
  have hfocus : s.box.focused = true := by simpa using hfocus
  split
  · exact absurd ⟨hfocus, .inl ‹_›⟩ h
  · rename_i hkey
    split
    · obtain ⟨r, hr⟩ := harrow .arrowDown (by decide) (by decide)
      exact ⟨r, .inr (.inr ⟨.arrowDown, by decide, by decide, by rw [hkey, hr]⟩)⟩
    · exact ⟨_, .inr (.inl rfl)⟩
  · rename_i hkey
    split
    · obtain ⟨r, hr⟩ := harrow .arrowUp (by decide) (by decide)
      exact ⟨r, .inr (.inr ⟨.arrowUp, by decide, by decide, by rw [hkey, hr]⟩)⟩
    · exact ⟨_, .inr (.inl rfl)⟩
  · exact absurd ⟨hfocus, .inr ‹_›⟩ h
  · exact ⟨_, .inr (.inl rfl)⟩

end Session

end NoteSearch
