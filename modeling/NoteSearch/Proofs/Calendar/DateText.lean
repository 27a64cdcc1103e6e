-- SUMMARY: The text of a date is read back as that date, in every year of the calendar.
import NoteSearch.Calendar.Date
import NoteSearch.Proofs.Text.Numerals

/-!
# Texts of dates

A year is written with four digits where that is enough, and with a sign otherwise. The reader tells
the two forms apart by the sign, so it finds every year again, and with it every date
(`Date.read?_write`).
-/

namespace NoteSearch.Calendar

open Text (NoDigit padded)

variable {rest : List Char} {year : Int}

theorem daysInMonth_le (year : Int) (month : Nat) : daysInMonth year month ≤ 31 := by
  unfold daysInMonth
  split <;> first | decide | split <;> decide

namespace Date

theorem of?_self (d : Date) : of? d.year d.month d.day = some d := dif_pos d.isDay

theorem of?_eq_some {month day : Nat} {d : Date} (h : of? year month day = some d) :
    d.year = year ∧ d.month = month ∧ d.day = day := by
  rw [of?] at h
  split at h
  · cases h
    exact ⟨rfl, rfl, rfl⟩
  · cases h

theorem month_lt (d : Date) : d.month < 100 := by
  obtain ⟨-, -, -, hmonth, -⟩ := d.isDay
  omega

theorem day_lt (d : Date) : d.day < 100 := by
  obtain ⟨-, -, -, -, -, hday⟩ := d.isDay
  have hmax := daysInMonth_le d.year d.month
  omega

/-! ## Years -/

/-- The years that are written without a sign. -/
def IsPlainYear (year : Int) : Prop := 0 ≤ year ∧ year ≤ 9999

instance (year : Int) : Decidable (IsPlainYear year) := inferInstanceAs (Decidable (_ ∧ _))

theorem writeYear_plain (h : IsPlainYear year) : writeYear year = padded 4 year.natAbs :=
  if_pos h

/-- Any other year is written with a sign. -/
theorem writeYear_signed (h : ¬ IsPlainYear year) :
    year < 0 ∧ writeYear year = '-' :: padded 4 year.natAbs ∨
      0 ≤ year ∧ writeYear year = '+' :: padded 4 year.natAbs := by
  have hsigned : writeYear year = (if year < 0 then '-' else '+') :: padded 4 year.natAbs :=
    if_neg h
  rw [hsigned]
  by_cases hneg : year < 0
  · exact .inl ⟨hneg, by rw [if_pos hneg]⟩
  · exact .inr ⟨Int.not_lt.1 hneg, by rw [if_neg hneg]⟩

theorem length_plainYear (h : IsPlainYear year) : (padded 4 year.natAbs).length = 4 := by
  obtain ⟨hlow, hhigh⟩ := h
  have hyear : year.natAbs < 10000 := by omega
  exact Text.length_padded (by decide) hyear

theorem trimStart_writeYear (year : Int) (rest : List Char) :
    Text.trimStart (writeYear year ++ rest) = writeYear year ++ rest := by
  by_cases hplain : IsPlainYear year
  · rw [writeYear_plain hplain]
    exact Text.trimStart_digits (fun _ => Text.isDigit_of_mem_padded) Text.padded_ne_nil rest
  · rcases writeYear_signed hplain with ⟨-, hyear⟩ | ⟨-, hyear⟩
    all_goals
      rw [hyear]
      rfl

/-- Without a sign, a year has four digits at most. -/
theorem readYear?_digits {digits : List Char} (h : ∀ c ∈ digits, c.isDigit = true)
    (hne : digits ≠ []) : readYear? (digits ++ rest) =
      (Text.numeral? 4 (digits ++ rest)).map fun (n, rest) => ((n : Int), rest) := by
  cases digits with
  | nil => exact absurd rfl hne
  | cons c digits =>
    have hc := h c List.mem_cons_self
    rw [List.cons_append, readYear?]
    · rintro t heq
      rw [(List.cons.inj heq).1] at hc
      cases hc
    · rintro t heq
      rw [(List.cons.inj heq).1] at hc
      cases hc

theorem readYear?_writeYear (year : Int) (h : NoDigit rest) :
    readYear? (Text.trimStart (writeYear year ++ rest)) = some (year, rest) := by
  have hread {most : Nat} (hmost : (padded 4 year.natAbs).length ≤ most) :
      Text.numeral? most (padded 4 year.natAbs ++ rest) = some (year.natAbs, rest) :=
    Text.numeral?_padded hmost h
  have hlength : (padded 4 year.natAbs).length ≤ (padded 4 year.natAbs ++ rest).length := by simp
  rw [trimStart_writeYear]
  by_cases hplain : IsPlainYear year
  · rw [writeYear_plain hplain, readYear?_digits (fun _ => Text.isDigit_of_mem_padded)
      Text.padded_ne_nil, hread (Nat.le_of_eq (length_plainYear hplain))]
    have habs : (year.natAbs : Int) = year := by
      obtain ⟨hlow, -⟩ := hplain
      omega
    show some ((year.natAbs : Int), rest) = _
    rw [habs]
  · rcases writeYear_signed hplain with ⟨hneg, hyear⟩ | ⟨hnonneg, hyear⟩
    · have habs : -(year.natAbs : Int) = year := by omega
      rw [hyear, List.cons_append, readYear?, hread hlength]
      show some (-(year.natAbs : Int), rest) = _
      rw [habs]
    · have habs : (year.natAbs : Int) = year := by omega
      rw [hyear, List.cons_append, readYear?, hread hlength]
      show some ((year.natAbs : Int), rest) = _
      rw [habs]

/-! ## Dates -/

/-- A number of two digits is read back after blanks or none. -/
theorem numeral?_two {n : Nat} (hn : n < 100) (h : NoDigit rest) :
    Text.numeral? 2 (Text.trimStart (padded 2 n ++ rest)) = some (n, rest) := by
  rw [Text.trimStart_digits (fun _ => Text.isDigit_of_mem_padded) Text.padded_ne_nil]
  exact Text.numeral?_padded (Nat.le_of_eq (Text.length_padded (by decide) hn)) h

theorem expect?_dash (t : List Char) : Text.expect? '-' (Text.trimStart ('-' :: t)) = some t := rfl

theorem read?_write (d : Date) : read? d.write = some d := by
  have hdash (rest : List Char) : NoDigit ('-' :: rest) := Text.noDigit_cons.2 rfl
  have hday : Text.numeral? 2 (Text.trimStart (padded 2 d.day)) = some (d.day, []) := by
    simpa using numeral?_two d.day_lt Text.noDigit_nil
  simp only [write, List.append_assoc, List.cons_append]
  refine Text.bind_of_eq_some (readYear?_writeYear _ (hdash _)) ?_
  refine Text.bind_of_eq_some (expect?_dash _) ?_
  refine Text.bind_of_eq_some (numeral?_two d.month_lt (hdash _)) ?_
  refine Text.bind_of_eq_some (expect?_dash _) ?_
  refine Text.bind_of_eq_some hday ?_
  exact d.of?_self

theorem ofText?_toText (d : Date) : ofText? d.toText = some d := by
  rw [ofText?, toText, String.toList_ofList, read?_write]

end Date

end NoteSearch.Calendar
