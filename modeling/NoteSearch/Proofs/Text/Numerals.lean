-- SUMMARY: A numeral that has been written is read back, and what is read has been written so.
import NoteSearch.Text.Blank
import NoteSearch.Text.Numeral

/-!
# Numerals are read back

A number is written with decimal digits, so a reader that finds all of them and nothing else finds
the number. It finds no more of them if no digit follows, or if it looks for no more. The other way
round, as many digits as there are places are the numeral of the number that they are read as.
-/

namespace NoteSearch.Text

variable {t rest digits : List Char} {width most n d : Nat}

/-! ## Digits -/

/-- No digit stands at the start of a text. -/
def NoDigit (t : List Char) : Prop := ∀ c ∈ t.head?, c.isDigit = false

@[simp] theorem noDigit_nil : NoDigit [] := by simp [NoDigit]

@[simp] theorem noDigit_cons {c : Char} : NoDigit (c :: t) ↔ c.isDigit = false := by
  simp [NoDigit]

theorem NoDigit.takeWhile (h : NoDigit t) : t.takeWhile Char.isDigit = [] := by
  cases t with
  | nil => rfl
  | cons c t => simp [noDigit_cons.1 h]

theorem NoDigit.dropWhile (h : NoDigit t) : t.dropWhile Char.isDigit = t := by
  cases t with
  | nil => rfl
  | cons c t => simp [noDigit_cons.1 h]

theorem takeWhile_digits (h : ∀ c ∈ digits, c.isDigit = true) (hrest : NoDigit rest) :
    (digits ++ rest).takeWhile Char.isDigit = digits := by
  rw [List.takeWhile_append_of_pos h, hrest.takeWhile, List.append_nil]

theorem dropWhile_digits (h : ∀ c ∈ digits, c.isDigit = true) (hrest : NoDigit rest) :
    (digits ++ rest).dropWhile Char.isDigit = rest := by
  rw [List.dropWhile_append_of_pos h, hrest.dropWhile]

/-- A digit is not blank. -/
theorem isBlank_of_isDigit {c : Char} (h : c.isDigit = true) : isBlank c = false := by
  rw [Char.isDigit, Bool.and_eq_true, decide_eq_true_eq, decide_eq_true_eq] at h
  have hlow : 48 ≤ c.toNat := h.1
  have hhigh : c.toNat ≤ 57 := h.2
  simp only [isBlank, Bool.or_eq_false_iff, Bool.and_eq_false_iff, decide_eq_false_iff_not,
    beq_eq_false_iff_ne]
  omega

theorem trimStart_digits (h : ∀ c ∈ digits, c.isDigit = true) (hne : digits ≠ []) (t : List Char) :
    trimStart (digits ++ t) = digits ++ t := by
  cases digits with
  | nil => exact absurd rfl hne
  | cons c digits =>
    have hc := isBlank_of_isDigit (h c List.mem_cons_self)
    simp [trimStart, hc]

/-! ## Written numerals -/

theorem isDigit_of_mem_toDigits {c : Char} (h : c ∈ Nat.toDigits 10 n) : c.isDigit = true :=
  Nat.isDigit_of_mem_toDigits (by decide) (by decide) h

theorem isDigit_of_mem_padded {c : Char} (h : c ∈ padded width n) : c.isDigit = true := by
  rcases List.mem_append.1 h with hzero | hdigit
  · rw [List.eq_of_mem_replicate hzero]
    rfl
  · exact isDigit_of_mem_toDigits hdigit

theorem padded_ne_nil : padded width n ≠ [] := by
  simp [padded, Nat.toDigits_ne_nil]

theorem length_padded (hwidth : 0 < width) (h : n < Nat.pow 10 width) :
    (padded width n).length = width := by
  have hlength := (Nat.length_toDigits_le_iff (b := 10) (by decide) hwidth).2 h
  simp only [padded, List.length_append, List.length_replicate]
  omega

theorem ofDigitChars_padded : Nat.ofDigitChars 10 (padded width n) 0 = n := by
  simp only [padded, Nat.ofDigitChars_append, Nat.ofDigitChars_replicate_zero, Nat.mul_zero,
    Nat.ofDigitChars_ten_toDigits]

/-- Only the number zero is written with a zero in front. -/
theorem head?_toDigits (h : 0 < n) : (Nat.toDigits 10 n).head? ≠ some '0' := by
  induction n using Nat.strongRecOn with
  | ind n ih =>
    by_cases hsmall : n < 10
    · rw [Nat.toDigits_of_lt_base hsmall]
      simp
      omega
    · have hrest := ih (n / 10) (by omega) (by omega)
      rw [Nat.toDigits_of_base_le (by decide) (Nat.not_lt.1 hsmall)]
      cases hdigits : Nat.toDigits 10 (n / 10) with
      | nil => exact absurd hdigits Nat.toDigits_ne_nil
      | cons c cs => simpa [hdigits] using hrest

/-- A digit is the one of its own value. -/
theorem digitChar_toNat {c : Char} (h : c.isDigit = true) :
    c.toNat - 48 < 10 ∧ Nat.digitChar (c.toNat - 48) = c := by
  have hchar : ∀ n < 10, Nat.digitChar n = Char.ofNat (48 + n) := by decide
  rw [Char.isDigit, Bool.and_eq_true, decide_eq_true_eq, decide_eq_true_eq] at h
  have hlow : 48 ≤ c.toNat := h.1
  have hhigh : c.toNat ≤ 57 := h.2
  have hvalue : c.toNat - 48 < 10 := by omega
  refine ⟨hvalue, ?_⟩
  rw [hchar _ hvalue, Nat.add_sub_cancel' hlow, Char.ofNat_toNat]

/-- One more place takes one more digit. -/
theorem padded_concat (hwidth : 0 < width) (hd : d < 10) :
    padded (width + 1) (10 * n + d) = padded width n ++ [Nat.digitChar d] := by
  rcases Nat.eq_zero_or_pos n with rfl | hn
  · obtain ⟨width, rfl⟩ := Nat.exists_eq_add_of_lt hwidth
    have hzero : Nat.toDigits 10 0 = ['0'] := rfl
    simp [padded, Nat.toDigits_of_lt_base hd, hzero, ← List.replicate_succ']
  · have hdigits : Nat.toDigits 10 (10 * n + d) = Nat.toDigits 10 n ++ [Nat.digitChar d] := by
      rw [Nat.toDigits_of_base_le (by decide) (by omega)]
      congr <;> omega
    simp [padded, hdigits]

/-- Digits are the numeral of their number, with as many places. -/
theorem padded_ofDigitChars (h : ∀ c ∈ digits, c.isDigit = true) (hne : digits ≠ []) :
    padded digits.length (Nat.ofDigitChars 10 digits 0) = digits := by
  induction hlength : digits.length generalizing digits with
  | zero => exact absurd (List.eq_nil_of_length_eq_zero hlength) hne
  | succ k ih =>
    obtain ⟨front, c, rfl⟩ : ∃ front c, digits = front ++ [c] :=
      ⟨_, _, (List.dropLast_concat_getLast hne).symm⟩
    obtain ⟨hvalue, hchar⟩ := digitChar_toNat (h c (by simp))
    have hfront : front.length = k := by simpa using hlength
    have hsum : Nat.ofDigitChars 10 (front ++ [c]) 0 =
        10 * Nat.ofDigitChars 10 front 0 + (c.toNat - 48) := by
      rw [Nat.ofDigitChars_append]
      rfl
    rw [hsum]
    cases k with
    | zero =>
      rw [List.eq_nil_of_length_eq_zero hfront]
      simp [padded, Nat.toDigits_of_lt_base hvalue, hchar]
    | succ k =>
      have hdigits := ih (fun c hc => h c (List.mem_append_left _ hc))
        (List.ne_nil_of_length_eq_add_one hfront) hfront
      rw [padded_concat (Nat.succ_pos k) hvalue, hdigits, hchar]

/-! ## Reading -/

/-- A reader of several parts is taken apart at the first of them that is known to be read. -/
theorem bind_of_eq_some {α β : Type} {x : Option α} {f : α → Option β} {a : α} {b : Option β}
    (hx : x = some a) (hf : f a = b) : x >>= f = b := by
  rw [hx]
  exact hf

@[simp] theorem expect?_cons (c : Char) (t : List Char) : expect? c (c :: t) = some t := by
  simp [expect?]

theorem eq_cons_of_expect? {c : Char} (h : expect? c t = some rest) : t = c :: rest := by
  cases t with
  | nil => cases h
  | cons d t =>
    obtain ⟨rfl, rfl⟩ : d = c ∧ t = rest := by simpa [expect?] using h
    rfl

/-- Digits are read as their number if there are not too many of them and no other one follows. -/
theorem numeral?_digits (h : ∀ c ∈ digits, c.isDigit = true) (hne : digits ≠ [])
    (hmost : digits.length ≤ most) (hrest : NoDigit rest) :
    numeral? most (digits ++ rest) = some (Nat.ofDigitChars 10 digits 0, rest) := by
  have htake : (digits ++ rest).take most = digits ++ rest.take (most - digits.length) := by
    rw [List.take_append, List.take_of_length_le hmost]
  have hkept : NoDigit (rest.take (most - digits.length)) := by
    intro c hc
    rw [List.head?_take] at hc
    split at hc
    · cases hc
    · exact hrest c hc
  simp [numeral?, htake, takeWhile_digits h hkept, hne]

theorem numeral?_padded (hmost : (padded width n).length ≤ most) (hrest : NoDigit rest) :
    numeral? most (padded width n ++ rest) = some (n, rest) := by
  rw [numeral?_digits (fun _ => isDigit_of_mem_padded) padded_ne_nil hmost hrest,
    ofDigitChars_padded]

theorem fixedNumeral?_padded (hwidth : 0 < width) (h : n < Nat.pow 10 width) (rest : List Char) :
    fixedNumeral? width (padded width n ++ rest) = some (n, rest) := by
  have hlength := length_padded hwidth h
  have hdigits : (padded width n).takeWhile Char.isDigit = padded width n := by
    simpa using takeWhile_digits (fun _ => isDigit_of_mem_padded) noDigit_nil
  have htake : (padded width n ++ rest).take width = padded width n := by
    rw [List.take_append_of_le_length (by omega), List.take_of_length_le (by omega)]
  have hdrop : (padded width n ++ rest).drop width = rest := by
    rw [List.drop_append_of_le_length (by omega), List.drop_of_length_le (by omega),
      List.nil_append]
  simp only [fixedNumeral?, htake, hdigits, hlength, hdrop, ofDigitChars_padded, if_true]

/-- What has been read as a numeral is the numeral of its number. -/
theorem fixedNumeral?_eq_some_iff (hwidth : 0 < width) :
    fixedNumeral? width t = some (n, rest) ↔
      n < Nat.pow 10 width ∧ t = padded width n ++ rest := by
  constructor
  · intro h
    simp only [fixedNumeral?, Option.ite_none_right_eq_some, Option.some.injEq,
      Prod.mk.injEq] at h
    obtain ⟨hlength, hn, hrest⟩ := h
    have hdigits : (t.take width).takeWhile Char.isDigit = t.take width := by
      refine (List.takeWhile_prefix _).eq_of_length_le ?_
      rw [hlength]
      exact List.length_take_le _ _
    rw [hdigits] at hlength hn
    have hall : ∀ c ∈ t.take width, c.isDigit = true := by
      rw [← hdigits]
      exact fun c hc => List.all_eq_true.1 List.all_takeWhile c hc
    have hne : t.take width ≠ [] := List.ne_nil_of_length_pos (hlength.symm ▸ hwidth)
    have hpadded := padded_ofDigitChars hall hne
    rw [hlength, hn] at hpadded
    refine ⟨(Nat.length_toDigits_le_iff (b := 10) (by decide) hwidth).1 ?_, ?_⟩
    · have hplaces := congrArg List.length hpadded
      simp only [padded, List.length_append, List.length_replicate, hlength] at hplaces
      omega
    · rw [hpadded, ← hrest, List.take_append_drop]
  · rintro ⟨hn, rfl⟩
    exact fixedNumeral?_padded hwidth hn rest

end NoteSearch.Text
