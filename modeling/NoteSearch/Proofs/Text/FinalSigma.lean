-- SUMMARY: A whole text and its characters lower-case differently exactly at a final sigma.
import NoteSearch.Text.Lower

/-!
# Final sigmas

A capital sigma ends a word if a cased character stands before it and none behind it, characters
that case ignores aside. Lower-casing a whole text gives it the final form, and lower-casing the
characters one by one does not. The results are equally long, and they are the same exactly for a
text without a final sigma (`lower_eq_lowerEach_iff`).
-/

namespace NoteSearch.Text

variable {t : List Char}

/-! ## Where a word ends -/

/-- The first character that case does not ignore is cased. -/
def BeginsCased (t : List Char) : Prop :=
  ∃ ignored c rest, t = ignored ++ c :: rest ∧ (∀ d ∈ ignored, isCaseIgnorable d = true) ∧
    isCaseIgnorable c = false ∧ isCased c = true

/-- The text has a capital sigma that ends a word. -/
def HasFinalSigma (t : List Char) : Prop :=
  ∃ before after, t = before ++ 'Σ' :: after ∧ BeginsCased before.reverse ∧ ¬ BeginsCased after

theorem meetsCased_iff : meetsCased t = true ↔ BeginsCased t := by
  unfold meetsCased
  constructor
  · intro h
    cases hdrop : t.dropWhile isCaseIgnorable with
    | nil => simp [hdrop] at h
    | cons c rest =>
      rw [hdrop] at h
      have hstops := List.head?_dropWhile_not isCaseIgnorable t
      rw [hdrop] at hstops
      refine ⟨t.takeWhile isCaseIgnorable, c, rest, ?_, List.all_eq_true.1 List.all_takeWhile, ?_, h⟩
      · rw [← hdrop, List.takeWhile_append_dropWhile]
      · simpa using hstops
  · rintro ⟨ignored, c, rest, rfl, hignored, hc, hcased⟩
    rw [List.dropWhile_append_of_pos hignored, List.dropWhile_cons_of_neg (by simp [hc])]
    exact hcased

theorem isFinalSigma_iff (before after : List Char) :
    isFinalSigma before after = true ↔ BeginsCased before ∧ ¬ BeginsCased after := by
  simp [isFinalSigma, ← meetsCased_iff]

/-! ## The two ways of lower-casing -/

theorem lowerChar_sigma : lowerChar 'Σ' = ['σ'] := by decide +kernel

/-- A sigma has one lower-case form or the other, and the rest of the text does not care. -/
theorem lowerAfter_cons_sigma (before t : List Char) :
    lowerAfter before ('Σ' :: t) =
      (if isFinalSigma before t then 'ς' else 'σ') :: lowerAfter ('Σ' :: before) t := rfl

theorem lowerAfter_cons_of_ne {c : Char} (hc : c ≠ 'Σ') (before t : List Char) :
    lowerAfter before (c :: t) = lowerChar c ++ lowerAfter (c :: before) t := by
  rw [lowerAfter, if_neg hc]

theorem length_lowerAfter (before t : List Char) :
    (lowerAfter before t).length = (lowerEach t).length := by
  induction t generalizing before with
  | nil => rfl
  | cons c cs ih =>
    by_cases hc : c = 'Σ'
    · subst hc
      rw [lowerAfter_cons_sigma, lowerEach_cons, lowerChar_sigma, List.length_cons, ih]
      rfl
    · rw [lowerAfter_cons_of_ne hc, lowerEach_cons, List.length_append, List.length_append, ih]

theorem length_lower (t : List Char) : (lower t).length = (lowerEach t).length :=
  length_lowerAfter [] t

/-- The two ways agree behind a text exactly if no sigma in the rest ends a word. -/
theorem lowerAfter_eq_lowerEach_iff (before t : List Char) :
    lowerAfter before t = lowerEach t ↔ ∀ earlier later, t = earlier ++ 'Σ' :: later →
      isFinalSigma (earlier.reverse ++ before) later = false := by
  induction t generalizing before with
  | nil => simp [lowerAfter]
  | cons c cs ih =>
    have hrest : lowerAfter (c :: before) cs = lowerEach cs ↔
        ∀ earlier later, cs = earlier ++ 'Σ' :: later →
          isFinalSigma ((c :: earlier).reverse ++ before) later = false := by
      simpa using ih (c :: before)
    by_cases hc : c = 'Σ'
    · subst hc
      rw [lowerAfter_cons_sigma, lowerEach_cons, lowerChar_sigma, List.singleton_append,
        List.cons_eq_cons, hrest]
      constructor
      · rintro ⟨hfirst, hothers⟩ earlier later hsplit
        cases earlier with
        | nil =>
          cases hsplit
          cases hfinal : isFinalSigma before cs with
          | true => simp [hfinal] at hfirst
          | false => exact hfinal
        | cons d earlier =>
          cases hsplit
          exact hothers earlier later rfl
      · intro h
        refine ⟨?_, fun earlier later hsplit => h ('Σ' :: earlier) later (by rw [hsplit]; rfl)⟩
        have hfinal : isFinalSigma before cs = false := h [] cs rfl
        simp [hfinal]
    · rw [lowerAfter_cons_of_ne hc, lowerEach_cons, List.append_cancel_left_eq, hrest]
      constructor
      · intro h earlier later hsplit
        cases earlier with
        | nil =>
          cases hsplit
          exact absurd rfl hc
        | cons d earlier =>
          cases hsplit
          exact h earlier later rfl
      · intro h earlier later hsplit
        exact h (c :: earlier) later (by rw [hsplit]; rfl)

theorem lower_eq_lowerEach_iff (t : List Char) : lower t = lowerEach t ↔ ¬ HasFinalSigma t := by
  rw [lower, lowerAfter_eq_lowerEach_iff, HasFinalSigma]
  simp only [List.append_nil, not_exists, not_and, Bool.eq_false_iff, ne_eq, isFinalSigma_iff]

end NoteSearch.Text
