-- SUMMARY: The words of a text and the places where they stand in it.
import Mathlib.Data.List.Basic
import NoteSearch.Text.Blank

/-!
# Words in their places

A word is a stretch without a blank between blanks or the ends of the text. `words` lists the words
of a text from left to right: a blank cuts the list where it cuts the text (`words_append_cons`), a
word is in the list exactly if it stands somewhere in the text (`mem_words_iff`), and the words
before it in the list stand before it in the text (`IsWordAt.exists_words_eq`).
-/

namespace NoteSearch.Text

variable {t u w : List Char} {c : Char} {n : Nat}

/-! ## Cutting -/

theorem pieces_eq_splitOnP (isCut : Char → Bool) (t : List Char) :
    pieces isCut t = t.splitOnP isCut := by
  induction t with
  | nil => rfl
  | cons c cs ih =>
    rw [List.splitOnP_cons_eq_if_modifyHead, pieces, ih]
    split
    · rfl
    · cases hpieces : cs.splitOnP isCut with
      | nil => exact absurd hpieces (List.splitOnP_ne_nil isCut cs)
      | cons piece rest => rfl

theorem words_eq (t : List Char) :
    words t = (t.splitOnP isBlank).filter fun piece => !piece.isEmpty := by
  rw [words, pieces_eq_splitOnP]

@[simp] theorem words_nil : words [] = [] := rfl

/-- A blank belongs to no word. -/
theorem words_append_cons (hc : isBlank c = true) (t u : List Char) :
    words (t ++ c :: u) = words t ++ words u := by
  rw [words_eq, List.splitOnP_append_cons t u hc, List.filter_append, ← words_eq, ← words_eq]

theorem words_cons (hc : isBlank c = true) (t : List Char) : words (c :: t) = words t :=
  words_append_cons hc [] t

theorem words_eq_singleton (hne : w ≠ []) (hw : ∀ c ∈ w, isBlank c = false) : words w = [w] := by
  rw [words_eq, List.splitOnP_eq_singleton hw]
  simpa using hne

/-! ## Places -/

/-- The stretch `w` between `before` and `after` is a word. -/
structure IsWordBetween (before w after : List Char) : Prop where
  ne_nil : w ≠ []
  solid : ∀ c ∈ w, isBlank c = false
  opened : ∀ c ∈ before.getLast?, isBlank c = true
  closed : ∀ c ∈ after.head?, isBlank c = true

/-- The text has the word `w` behind its first `n` characters. -/
def IsWordAt (t : List Char) (n : Nat) (w : List Char) : Prop :=
  ∃ before after, t = before ++ w ++ after ∧ before.length = n ∧ IsWordBetween before w after

theorem IsWordAt.lt_length (h : IsWordAt t n w) : n < t.length := by
  obtain ⟨before, after, rfl, rfl, hw⟩ := h
  have hpos := List.length_pos_iff.2 hw.ne_nil
  simp only [List.length_append]
  omega

theorem isWordAt_self (hne : w ≠ []) (hw : ∀ c ∈ w, isBlank c = false) : IsWordAt w 0 w :=
  ⟨[], [], by simp, rfl, hne, hw, nofun, nofun⟩

/-- A word stays a word when a blank and more text follow. -/
theorem IsWordAt.append_cons (h : IsWordAt t n w) (hc : isBlank c = true) (u : List Char) :
    IsWordAt (t ++ c :: u) n w := by
  obtain ⟨before, after, rfl, hn, hw⟩ := h
  refine ⟨before, after ++ c :: u, by simp, hn, hw.ne_nil, hw.solid, hw.opened, ?_⟩
  intro d hd
  cases after with
  | nil =>
    cases hd
    exact hc
  | cons a after => exact hw.closed d hd

/-- A word stays a word when more text and a blank come before. -/
theorem IsWordAt.after_cons (h : IsWordAt u n w) (hc : isBlank c = true) (t : List Char) :
    IsWordAt (t ++ c :: u) (t.length + (n + 1)) w := by
  obtain ⟨before, after, rfl, rfl, hw⟩ := h
  refine ⟨t ++ c :: before, after, by simp, by simp, hw.ne_nil, hw.solid, ?_, hw.closed⟩
  intro d hd
  rcases before.eq_nil_or_concat' with rfl | ⟨before, b, rfl⟩
  · rw [List.getLast?_concat] at hd
    cases hd
    exact hc
  · rw [← List.cons_append, ← List.append_assoc, List.getLast?_concat] at hd
    exact hw.opened d (by rwa [List.getLast?_concat])

/-- A text that is not solid has a first blank. -/
theorem exists_first_blank (h : ¬ ∀ c ∈ t, isBlank c = false) :
    ∃ first c rest, t = first ++ c :: rest ∧ isBlank c = true ∧ ∀ d ∈ first, isBlank d = false := by
  obtain ⟨c, hc⟩ : ∃ c, t.find? isBlank = some c := by
    apply Option.isSome_iff_exists.1
    simpa [List.find?_isSome] using h
  obtain ⟨hblank, first, rest, hsplit, hfirst⟩ := List.find?_eq_some_iff_append.1 hc
  exact ⟨first, c, rest, hsplit, hblank, by simpa using hfirst⟩

theorem exists_isWordAt {t w : List Char} (hw : w ∈ words t) : ∃ n, IsWordAt t n w := by
  by_cases hsolid : ∀ c ∈ t, isBlank c = false
  · rcases eq_or_ne t [] with rfl | hne
    · cases hw
    · rw [words_eq_singleton hne hsolid, List.mem_singleton] at hw
      rw [hw]
      exact ⟨0, isWordAt_self hne hsolid⟩
  · obtain ⟨first, c, rest, rfl, hc, hfirst⟩ := exists_first_blank hsolid
    rw [words_append_cons hc, List.mem_append] at hw
    rcases hw with hw | hw
    · have hne : first ≠ [] := by
        rintro rfl
        cases hw
      rw [words_eq_singleton hne hfirst, List.mem_singleton] at hw
      rw [hw]
      exact ⟨0, (isWordAt_self hne hfirst).append_cons hc rest⟩
    · obtain ⟨n, hn⟩ := exists_isWordAt hw
      exact ⟨_, hn.after_cons hc first⟩
  termination_by t.length

theorem IsWordBetween.words_eq {before after : List Char} (h : IsWordBetween before w after) :
    words (before ++ w ++ after) = words before ++ w :: words after := by
  have hopened : words (before ++ w) = words before ++ [w] := by
    rcases before.eq_nil_or_concat' with rfl | ⟨before, c, rfl⟩
    · exact words_eq_singleton h.ne_nil h.solid
    · have hc : isBlank c = true := h.opened c (by simp)
      rw [List.append_assoc, List.singleton_append, words_append_cons hc, words_append_cons hc,
        words_eq_singleton h.ne_nil h.solid, words_nil, List.append_nil]
  cases after with
  | nil => simpa using hopened
  | cons c after =>
    have hc : isBlank c = true := h.closed c rfl
    rw [words_append_cons hc, hopened, words_cons hc, List.append_assoc, List.singleton_append]

/-- The words before a word in the list stand before it in the text. -/
theorem IsWordAt.exists_words_eq (h : IsWordAt t n w) :
    ∃ earlier later, words t = earlier ++ w :: later ∧
      ∀ v ∈ earlier, ∃ m < n, IsWordAt t m v := by
  obtain ⟨before, after, rfl, rfl, hw⟩ := h
  refine ⟨_, _, hw.words_eq, ?_⟩
  intro v hv
  rcases before.eq_nil_or_concat' with rfl | ⟨before, c, rfl⟩
  · cases hv
  · have hc : isBlank c = true := hw.opened c (by simp)
    rw [words_append_cons hc, words_nil, List.append_nil] at hv
    obtain ⟨m, hm⟩ := exists_isWordAt hv
    refine ⟨m, ?_, ?_⟩
    · rw [List.length_append]
      exact Nat.lt_succ_of_lt hm.lt_length
    · simpa using hm.append_cons hc (w ++ after)

theorem mem_words_iff : w ∈ words t ↔ ∃ n, IsWordAt t n w := by
  refine ⟨exists_isWordAt, ?_⟩
  rintro ⟨n, hn⟩
  obtain ⟨earlier, later, hwords, -⟩ := hn.exists_words_eq
  simp [hwords]

end NoteSearch.Text
