-- SUMMARY: The days of the calendar in one count, and instants as seconds of one time line.
import NoteSearch.Calendar.Timestamp
import NoteSearch.Proofs.Calendar.DateText

/-!
# Counting days and seconds

The days of the calendar have numbers one after the other (`Date.number_next`,
`Date.number_prev`), whatever months, leap days and turns of years lie between them, and no two days
have the same number (`Date.eq_of_number`). So the seconds of all days are on one line. To move an
instant by an offset is to move along this line, though the calendar is only ever asked for the day
before or after.
-/

namespace NoteSearch.Calendar

variable {year : Int} {month : Nat}

/-! ## Years and months -/

def daysInYear (year : Int) : Nat := if isLeapYear year then 366 else 365

/-- The days from the start of the year zero to the start of a year: every fourth year has one more,
but of the full centuries only every fourth. -/
def daysBeforeYear (year : Int) : Int :=
  365 * year + (year + 3) / 4 - (year + 99) / 100 + (year + 399) / 400

/-- The days from the start of a year to the start of one of its months. -/
def daysBeforeMonth (year : Int) : (month : Nat) → Nat
  | 0 => 0
  | month + 1 => daysBeforeMonth year month + daysInMonth year month

theorem daysBeforeYear_succ (year : Int) :
    daysBeforeYear (year + 1) = daysBeforeYear year + daysInYear year := by
  simp only [daysBeforeYear, daysInYear, isLeapYear, Bool.and_eq_true, Bool.or_eq_true, beq_iff_eq,
    bne_iff_ne]
  split <;> omega

theorem daysBeforeYear_mono {year later : Int} (h : year ≤ later) :
    daysBeforeYear year ≤ daysBeforeYear later := by
  simp only [daysBeforeYear]
  omega

theorem daysBeforeMonth_mono {month later : Nat} (h : month ≤ later) :
    daysBeforeMonth year month ≤ daysBeforeMonth year later := by
  induction later with
  | zero => exact Nat.le_of_eq (congrArg _ (Nat.le_zero.1 h))
  | succ later ih =>
    rcases Nat.le_succ_iff.1 h with hle | rfl
    · exact Nat.le_trans (ih hle) (Nat.le_add_right _ _)
    · exact Nat.le_refl _

theorem daysBeforeMonth_end (year : Int) : daysBeforeMonth year 13 = daysInYear year := by
  simp only [daysBeforeMonth, daysInMonth, daysInYear]
  split <;> rfl

theorem one_le_daysInMonth (hlow : 1 ≤ month) (hhigh : month ≤ 12) :
    1 ≤ daysInMonth year month := by
  unfold daysInMonth
  split
  case h_13 =>
    simp only [imp_false] at *
    omega
  all_goals first | decide | split <;> decide

namespace Date

variable {d e : Date}

/-! ## Days -/

/-- The number of a day; the first day of the year zero has the number one. -/
def number (d : Date) : Int :=
  daysBeforeYear d.year + daysBeforeMonth d.year d.month + d.day

theorem number_of? {day : Nat} (h : of? year month day = some d) :
    d.number = daysBeforeYear year + daysBeforeMonth year month + day := by
  obtain ⟨rfl, rfl, rfl⟩ := of?_eq_some h
  rfl

/-- The days of a year are between its start and the start of the next one. -/
theorem number_bounds (d : Date) :
    daysBeforeYear d.year < d.number ∧ d.number ≤ daysBeforeYear (d.year + 1) := by
  obtain ⟨-, -, -, hmonth, hlow, hhigh⟩ := d.isDay
  have hend : daysBeforeMonth d.year (d.month + 1) ≤ daysBeforeMonth d.year 13 :=
    daysBeforeMonth_mono (by omega)
  rw [daysBeforeMonth_end, daysBeforeMonth] at hend
  rw [daysBeforeYear_succ, number]
  omega

theorem number_next (h : d.next? = some e) : e.number = d.number + 1 := by
  obtain ⟨-, -, -, hmonth, -, hday⟩ := d.isDay
  unfold next? at h
  split at h
  · rw [number_of? h, number]
    omega
  have hlast : d.day = daysInMonth d.year d.month := by omega
  split at h
  · rw [number_of? h, number, daysBeforeMonth]
    omega
  · have hdecember : d.month = 12 := by omega
    have hyear : daysBeforeMonth d.year 12 + daysInMonth d.year 12 = daysInYear d.year :=
      daysBeforeMonth_end d.year
    have hfirst : daysBeforeMonth (d.year + 1) 1 = 0 := rfl
    rw [number_of? h, number, daysBeforeYear_succ, hlast, hdecember, hfirst]
    omega

theorem number_prev (h : d.prev? = some e) : e.number = d.number - 1 := by
  obtain ⟨-, -, hmonth, -, hday, -⟩ := d.isDay
  unfold prev? at h
  split at h
  · rw [number_of? h, number]
    omega
  have hfirst : d.day = 1 := by omega
  split at h
  · obtain ⟨month, hmonth⟩ : ∃ month, d.month = month + 1 := ⟨d.month - 1, by omega⟩
    rw [number_of? h, number, hmonth, daysBeforeMonth, Nat.add_sub_cancel]
    omega
  · have hjanuary : d.month = 1 := by omega
    have hyear : daysBeforeMonth (d.year - 1) 12 + 31 = daysInYear (d.year - 1) :=
      daysBeforeMonth_end (d.year - 1)
    have hnone : daysBeforeMonth d.year 1 = 0 := rfl
    have hsucc := daysBeforeYear_succ (d.year - 1)
    rw [Int.sub_add_cancel] at hsucc
    rw [number_of? h, number, hfirst, hjanuary, hnone, hsucc]
    omega

/-- There is a next day but on the last day of the calendar. -/
theorem exists_next (h : d.year < maxYear) : ∃ e, d.next? = some e := by
  obtain ⟨hyear, hlast, hlow, hmonth, hday, -⟩ := d.isDay
  unfold next?
  split
  · exact ⟨_, dif_pos ⟨hyear, hlast, hlow, hmonth, by omega, by omega⟩⟩
  split
  · exact ⟨_, dif_pos ⟨hyear, hlast, by omega, by omega, by decide,
      one_le_daysInMonth (by omega) (by omega)⟩⟩
  · exact ⟨_, dif_pos ⟨by omega, by omega, by decide, by decide, by decide,
      one_le_daysInMonth (by decide) (by decide)⟩⟩

theorem exists_prev (h : minYear < d.year) : ∃ e, d.prev? = some e := by
  obtain ⟨hyear, hlast, hlow, hmonth, hday, hend⟩ := d.isDay
  unfold prev?
  split
  · exact ⟨_, dif_pos ⟨hyear, hlast, hlow, hmonth, by omega, by omega⟩⟩
  split
  · exact ⟨_, dif_pos ⟨hyear, hlast, by omega, by omega,
      one_le_daysInMonth (by omega) (by omega), Nat.le_refl _⟩⟩
  · exact ⟨_, dif_pos ⟨by omega, by omega, by decide, by decide, by decide, Nat.le_refl 31⟩⟩

theorem year_le_of_number (h : d.number ≤ e.number) : d.year ≤ e.year := by
  by_cases hlt : e.year < d.year
  · have hyears : daysBeforeYear (e.year + 1) ≤ daysBeforeYear d.year := daysBeforeYear_mono hlt
    have hd := d.number_bounds
    have he := e.number_bounds
    omega
  · exact Int.not_lt.1 hlt

/-- In one year, an earlier month has the smaller numbers. -/
theorem month_le_of_number (hyear : d.year = e.year) (h : d.number ≤ e.number) :
    d.month ≤ e.month := by
  by_cases hlt : e.month < d.month
  · have hmonths : daysBeforeMonth e.year (e.month + 1) ≤ daysBeforeMonth e.year d.month :=
      daysBeforeMonth_mono hlt
    obtain ⟨-, -, -, -, -, hlast⟩ := e.isDay
    obtain ⟨-, -, -, -, hfirst, -⟩ := d.isDay
    rw [number, number, hyear] at h
    rw [daysBeforeMonth] at hmonths
    omega
  · exact Nat.not_lt.1 hlt

/-- No two days have the same number. -/
theorem eq_of_number (h : d.number = e.number) : d = e := by
  have hyear : d.year = e.year :=
    Int.le_antisymm (year_le_of_number (Int.le_of_eq h)) (year_le_of_number (Int.le_of_eq h.symm))
  have hmonth : d.month = e.month :=
    Nat.le_antisymm (month_le_of_number hyear (Int.le_of_eq h))
      (month_le_of_number hyear.symm (Int.le_of_eq h.symm))
  have hday : d.day = e.day := by
    rw [number, number, hyear, hmonth] at h
    omega
  cases d
  cases e
  simp_all

end Date

namespace Timestamp

variable {t u : Timestamp} {minutes : Int}

/-! ## Instants -/

/-- The seconds from the day before the year zero to the second of an instant. -/
def secondCount (t : Timestamp) : Int := t.date.number * secondsPerDay + t.second

/-- An instant is known by its second and what has passed of it. -/
theorem eq_of_secondCount (hsecond : t.secondCount = u.secondCount) (hnanos : t.nanos = u.nanos) :
    t = u := by
  have ht := t.second_lt
  have hu := u.second_lt
  simp only [secondCount, secondsPerDay] at *
  have hdate : t.date = u.date := Date.eq_of_number (by omega)
  have hinDay : t.second = u.second := by
    rw [hdate] at hsecond
    omega
  cases t
  cases u
  simp_all

/-- An instant is moved along the line of the seconds, and keeps what has passed of its own. -/
theorem secondCount_minusMinutes (hlow : -1440 < minutes) (hhigh : minutes < 1440)
    (h : t.minusMinutes? minutes = some u) :
    u.secondCount = t.secondCount - 60 * minutes ∧ u.nanos = t.nanos := by
  have hsecond : t.second < 86400 := t.second_lt
  have hday : (secondsPerDay : Int) = 86400 := rfl
  simp only [minusMinutes?, hday, Option.map_eq_some_iff] at h
  obtain ⟨date, hdate, rfl⟩ := h
  refine ⟨?_, rfl⟩
  simp only [secondCount, hday]
  split at hdate
  · rw [Date.number_prev hdate]
    omega
  split at hdate
  · rw [Date.number_next hdate]
    omega
  · cases hdate
    omega

/-- In the years of four digits there is a day on either side, so an instant can be moved. -/
theorem exists_minusMinutes (hyear : Date.IsPlainYear t.date.year) (minutes : Int) :
    ∃ u, t.minusMinutes? minutes = some u := by
  obtain ⟨hlow, hhigh⟩ := hyear
  have hprev := Date.exists_prev (d := t.date) (by simp only [Date.minYear]; omega)
  have hnext := Date.exists_next (d := t.date) (by simp only [Date.maxYear]; omega)
  simp only [minusMinutes?, Option.map_eq_some_iff]
  split
  · exact hprev.elim fun e he => ⟨_, e, he, rfl⟩
  split
  · exact hnext.elim fun e he => ⟨_, e, he, rfl⟩
  · exact ⟨_, _, rfl, rfl⟩

end Timestamp

end NoteSearch.Calendar
