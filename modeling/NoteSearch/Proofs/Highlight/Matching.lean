-- SUMMARY: What a match is: a stretch that spells a term in lower case. Lengths tell matches apart.
import Mathlib.Data.String.Basic
import NoteSearch.Highlight.Scan

/-!
# Matches

A term matches at the start of a text if the lower-case forms of the first characters spell it.
Every character has a lower-case form, so the stretch that a match takes is determined by its
term, and of two matches at one place the longer one is longer in every respect: in the
characters of its term, in those of its stretch, and in bytes.
-/

namespace NoteSearch

namespace Text

@[simp] theorem lowerEach_eq_nil_iff {t : List Char} : lowerEach t = [] ↔ t = [] := by
  cases t with
  | nil => simp
  | cons c cs => simp [lowerChar_ne_nil]

end Text

namespace Highlight

/-! ## Matches of one term -/

/-- A stretch at the start of `rest` whose lower-case form is `term`. -/
structure IsMatch (term stretch rest : List Char) : Prop where
  term_ne_nil : term ≠ []
  starts : stretch <+: rest
  spells : Text.lowerEach stretch = term

variable {term other stretch longer rest text : List Char} {terms : List (List Char)} {n : Nat}

theorem IsMatch.stretch_ne_nil (h : IsMatch term stretch rest) : stretch ≠ [] := by
  rintro rfl
  exact h.term_ne_nil h.spells.symm

/-- What follows a text does not undo a match in it. -/
theorem IsMatch.append (h : IsMatch term stretch rest) (more : List Char) :
    IsMatch term stretch (rest ++ more) :=
  { h with starts := h.starts.trans (List.prefix_append rest more) }

theorem IsMatch.take_length (h : IsMatch term stretch rest) :
    rest.take stretch.length = stretch :=
  (List.prefix_iff_eq_take.1 h.starts).symm

theorem IsMatch.lt_of_starts (h : IsMatch term stretch rest) (k : IsMatch other longer rest)
    (hstarts : stretch <+: longer) (hne : stretch ≠ longer) :
    term.length < other.length ∧ stretch.length < longer.length ∧
      String.utf8Len stretch < String.utf8Len longer := by
  obtain ⟨added, rfl⟩ := hstarts
  have hadded : added ≠ [] := by
    rintro rfl
    exact hne (List.append_nil stretch).symm
  have hlower : 0 < (Text.lowerEach added).length := by simpa [List.length_pos_iff] using hadded
  have hbytes : 0 < String.utf8Len added := by simpa [Nat.pos_iff_ne_zero] using hadded
  have hlength : 0 < added.length := List.length_pos_iff.2 hadded
  rw [← h.spells, ← k.spells, Text.lowerEach_append]
  simp only [List.length_append, String.utf8Len_append]
  omega

/-- Two matches at one place are the same, or one of them is shorter in every respect. -/
theorem IsMatch.compare (h : IsMatch term stretch rest) (k : IsMatch other longer rest) :
    (term = other ∧ stretch = longer) ∨
    (term.length < other.length ∧ stretch.length < longer.length ∧
      String.utf8Len stretch < String.utf8Len longer) ∨
    (other.length < term.length ∧ longer.length < stretch.length ∧
      String.utf8Len longer < String.utf8Len stretch) := by
  by_cases hsame : stretch = longer
  · subst hsame
    exact .inl ⟨h.spells.symm.trans k.spells, rfl⟩
  · rcases List.prefix_or_prefix_of_prefix h.starts k.starts with hp | hp
    · exact .inr (.inl (h.lt_of_starts k hp hsame))
    · exact .inr (.inr (k.lt_of_starts h hp (Ne.symm hsame)))

/-- A first character is passed if its lower-case form is wanted next. -/
theorem spelled?_cons_eq_some_iff {c w : Char} {cs ws : List Char} :
    spelled? (c :: cs) (w :: ws) = some n ↔
      ∃ left, Text.lowerChar c ++ left = w :: ws ∧ ∃ m, spelled? cs left = some m ∧ m + 1 = n := by
  simp only [spelled?]
  constructor
  · intro h
    split at h
    · rename_i left hleft
      exact ⟨left, List.isPrefixOf?_eq_some_iff_append_eq.1 hleft, Option.map_eq_some_iff.1 h⟩
    · cases h
  · rintro ⟨left, hleft, h⟩
    rw [List.isPrefixOf?_eq_some_iff_append_eq.2 hleft]
    exact Option.map_eq_some_iff.2 h

theorem spelled?_eq_some_iff {wanted : List Char} :
    spelled? text wanted = some n ↔ n ≤ text.length ∧ Text.lowerEach (text.take n) = wanted := by
  induction text generalizing wanted n with
  | nil =>
    cases wanted with
    | nil => simpa [spelled?] using eq_comm
    | cons w ws => simp [spelled?]
  | cons c cs ih =>
    cases wanted with
    | nil =>
      simp only [spelled?, Option.some.injEq, Text.lowerEach_eq_nil_iff, List.take_eq_nil_iff]
      simp only [reduceCtorEq, or_false]
      omega
    | cons w ws =>
      rw [spelled?_cons_eq_some_iff]
      constructor
      · rintro ⟨left, hleft, m, hm, rfl⟩
        obtain ⟨hle, hlower⟩ := ih.1 hm
        refine ⟨Nat.succ_le_succ hle, ?_⟩
        rw [List.take_succ_cons, Text.lowerEach_cons, hlower, hleft]
      · rintro ⟨hle, hlower⟩
        cases n with
        | zero => simp at hlower
        | succ m =>
          rw [List.take_succ_cons, Text.lowerEach_cons] at hlower
          exact ⟨_, hlower, m, ih.2 ⟨Nat.le_of_succ_le_succ hle, rfl⟩, rfl⟩

theorem matchLength?_eq_some_iff :
    matchLength? rest term = some n ↔ n ≤ rest.length ∧ IsMatch term (rest.take n) rest := by
  unfold matchLength?
  cases term with
  | nil =>
    simp only [List.isEmpty_nil, ↓reduceIte, reduceCtorEq, false_iff, not_and]
    exact fun _ h => h.term_ne_nil rfl
  | cons w ws =>
    simp only [List.isEmpty_cons, Bool.false_eq_true, ↓reduceIte, spelled?_eq_some_iff]
    exact and_congr_right fun _ =>
      ⟨fun h => ⟨by simp, List.take_prefix n rest, h⟩, fun h => h.spells⟩

theorem IsMatch.matchLength? (h : IsMatch term stretch rest) :
    matchLength? rest term = some stretch.length :=
  matchLength?_eq_some_iff.2 ⟨h.starts.length_le, h.take_length.symm ▸ h⟩

/-! ## The longest match -/

/-- A stretch that one of the terms matches, while every other term that matches is shorter and
takes fewer bytes. -/
def IsLongest (terms : List (List Char)) (stretch rest : List Char) : Prop :=
  ∃ term ∈ terms, IsMatch term stretch rest ∧
    ∀ other ∈ terms, ∀ shorter, IsMatch other shorter rest →
      other = term ∨
        other.length < term.length ∧ String.utf8Len shorter < String.utf8Len stretch

/-- No term matches at the start of a text. -/
def IsSilent (terms : List (List Char)) (rest : List Char) : Prop :=
  ∀ term ∈ terms, ∀ stretch, ¬ IsMatch term stretch rest

theorem longestMatch?_eq_none_iff :
    longestMatch? terms rest = none ↔ IsSilent terms rest := by
  rw [longestMatch?, List.max?_eq_none_iff, List.filterMap_eq_nil_iff]
  constructor
  · intro h term hterm stretch hmatch
    cases (h term hterm).symm.trans hmatch.matchLength?
  · intro h term hterm
    cases hlength : matchLength? rest term with
    | none => rfl
    | some n => exact absurd (matchLength?_eq_some_iff.1 hlength).2 (h term hterm _)

theorem longestMatch?_eq_some_iff :
    longestMatch? terms rest = some n ↔ n ≤ rest.length ∧ IsLongest terms (rest.take n) rest := by
  rw [longestMatch?, List.max?_eq_some_iff]
  simp only [List.mem_filterMap, forall_exists_index, and_imp]
  constructor
  · rintro ⟨⟨term, hterm, hlength⟩, hmax⟩
    obtain ⟨hle, hmatch⟩ := matchLength?_eq_some_iff.1 hlength
    refine ⟨hle, term, hterm, hmatch, ?_⟩
    intro other hother shorter hshorter
    have hbound : shorter.length ≤ (rest.take n).length := by
      simpa [hle] using hmax _ other hother hshorter.matchLength?
    rcases hshorter.compare hmatch with ⟨rfl, -⟩ | ⟨hlt, -, hbytes⟩ | ⟨-, hgt, -⟩
    · exact .inl rfl
    · exact .inr ⟨hlt, hbytes⟩
    · omega
  · rintro ⟨hle, term, hterm, hmatch, hlongest⟩
    refine ⟨⟨term, hterm, matchLength?_eq_some_iff.2 ⟨hle, hmatch⟩⟩, ?_⟩
    intro m other hother hm
    obtain ⟨hm, hshorter⟩ := matchLength?_eq_some_iff.1 hm
    rcases hshorter.compare hmatch with ⟨-, hsame⟩ | ⟨-, hlt, -⟩ | ⟨hgt, -, -⟩
    · have := congrArg List.length hsame
      simp only [List.length_take] at this
      omega
    · simp only [List.length_take] at hlt
      omega
    · rcases hlongest other hother _ hshorter with rfl | ⟨hlt, -⟩
      · omega
      · omega

/-- The longest match takes at least one character. -/
theorem pos_of_longestMatch? (h : longestMatch? terms rest = some n) : 0 < n := by
  obtain ⟨-, term, -, hmatch, -⟩ := longestMatch?_eq_some_iff.1 h
  rw [Nat.pos_iff_ne_zero]
  rintro rfl
  exact hmatch.stretch_ne_nil rfl

theorem IsLongest.longestMatch? (h : IsLongest terms stretch rest) :
    longestMatch? terms rest = some stretch.length := by
  obtain ⟨term, -, hmatch, -⟩ := id h
  exact longestMatch?_eq_some_iff.2 ⟨hmatch.starts.length_le, hmatch.take_length.symm ▸ h⟩

/-! ## Bytes -/

theorem spelledBytes?_eq (text wanted : List Char) :
    spelledBytes? text wanted =
      (spelled? text wanted).map fun n => String.utf8Len (text.take n) := by
  induction text generalizing wanted with
  | nil => cases wanted <;> simp [spelledBytes?, spelled?]
  | cons c cs ih =>
    cases wanted with
    | nil => simp [spelledBytes?, spelled?]
    | cons w ws =>
      simp only [spelledBytes?, spelled?]
      cases (Text.lowerChar c).isPrefixOf? (w :: ws) with
      | none => rfl
      | some left =>
        simp only [ih, Option.map_map]
        congr 1
        funext n
        exact Nat.add_comm _ _

theorem matchBytes?_eq (text term : List Char) :
    matchBytes? text term = (matchLength? text term).map fun n => String.utf8Len (text.take n) := by
  unfold matchBytes? matchLength?
  split
  · rfl
  · exact spelledBytes?_eq text term

/-- More characters take more bytes. -/
theorem utf8Len_take_mono (text : List Char) {m n : Nat} (h : m ≤ n) :
    String.utf8Len (text.take m) ≤ String.utf8Len (text.take n) :=
  String.utf8Len_le_of_prefix (List.take_prefix_take_left h)

/-- The match with the most bytes is the one with the most characters. -/
theorem longestBytes?_eq (terms : List (List Char)) (text : List Char) :
    longestBytes? terms text =
      (longestMatch? terms text).map fun n => String.utf8Len (text.take n) := by
  have hbytes : terms.filterMap (matchBytes? text) =
      (terms.filterMap (matchLength? text)).map fun n => String.utf8Len (text.take n) := by
    rw [List.map_filterMap]
    exact List.filterMap_congr fun term _ => matchBytes?_eq text term
  rw [longestBytes?, hbytes, longestMatch?]
  cases hmax : (terms.filterMap (matchLength? text)).max? with
  | none =>
    rw [List.max?_eq_none_iff] at hmax
    simp [hmax]
  | some n =>
    rw [List.max?_eq_some_iff] at hmax
    rw [Option.map_some, List.max?_eq_some_iff]
    refine ⟨List.mem_map_of_mem hmax.1, ?_⟩
    intro b hb
    obtain ⟨m, hm, rfl⟩ := List.mem_map.1 hb
    exact utf8Len_take_mono text (hmax.2 m hm)

end Highlight

end NoteSearch
