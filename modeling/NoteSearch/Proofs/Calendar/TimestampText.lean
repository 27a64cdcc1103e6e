-- SUMMARY: The text of an instant is read back in the years of four digits, and in no others.
import NoteSearch.Calendar.Timestamp
import NoteSearch.Proofs.Calendar.DateText

/-!
# Texts of instants

An instant is written in one form and read in two. The form of RFC 3339 has years of four digits
only, and the plain form has no offset, while an instant is always written with one. So the text of
an instant is read back exactly if its year is written without a sign (`Timestamp.read?_write`).

A text that somebody else has written may have another separator, another fraction and any offset.
Up to its seconds it is still the text of an instant, so both readers take it from there, and the
reader of RFC 3339 accepts nothing else (`Timestamp.exists_front`).
-/

namespace NoteSearch.Calendar.Timestamp

open Text (NoDigit padded bind_of_eq_some)
open Date (IsPlainYear)

variable {fraction rest : List Char} {nanos : Nat}

/-! ## Clocks -/

theorem clock_isTime (t : Timestamp) : t.clock.IsTime := by
  have hsecond := t.second_lt
  have hnanos : t.nanos % nanosPerSecond < nanosPerSecond := Nat.mod_lt _ (by decide)
  refine ⟨?_, Nat.mod_lt _ (by decide), ?_, hnanos⟩
  · simp only [clock, secondsPerDay] at *
    omega
  · simp only [clock]
    split
    · omega
    · exact Nat.le_refl _

/-- Hours, minutes and seconds have two digits. -/
theorem clock_twoDigits (t : Timestamp) : t.clock.hour < 100 ∧ t.clock.minute < 100 ∧
    t.clock.second < 100 ∧ t.clock.nanos < nanosPerSecond := by
  obtain ⟨hhour, hminute, hsecond, hnanos⟩ := t.clock_isTime
  exact ⟨by omega, by omega, by omega, hnanos⟩

/-- The clock of an instant, on its day, shows the instant. -/
theorem ofClock_clock (t : Timestamp) : ofClock t.date t.clock t.clock_isTime = t := by
  obtain ⟨date, second, nanos, hsecond, hnanos, hleap⟩ := t
  simp only [ofClock, clock, mk.injEq, true_and]
  simp only [nanosPerSecond] at *
  by_cases hlt : nanos < 1000000000
  · have hplain : second % 60 ≠ 60 := by omega
    simp only [hlt, if_true, if_neg hplain]
    omega
  · have hlast := hleap (Nat.not_lt.1 hlt)
    simp only [hlt, if_false, if_true]
    omega

theorem ofClock?_clock (t : Timestamp) : ofClock? t.date t.clock = some t := by
  rw [ofClock?, dif_pos t.clock_isTime, ofClock_clock]

/-- A time that is set on a clock is what the clock shows. -/
theorem clock_ofClock {d : Date} {c : Clock} (h : c.IsTime) : (ofClock d c h).clock = c := by
  obtain ⟨hour, minute, second, nanos⟩ := c
  obtain ⟨hhour, hminute, hsecond, hnanos⟩ : hour < 24 ∧ minute < 60 ∧ second ≤ 60 ∧
    nanos < 1000000000 := h
  simp only [clock, ofClock, Clock.mk.injEq, nanosPerSecond]
  by_cases hsixty : second = 60
  · have hlate : ¬ nanos + 1000000000 < 1000000000 := by omega
    simp only [hsixty, if_true, if_neg hlate, true_and]
    omega
  · have hearly : nanos + 0 < 1000000000 := by omega
    simp only [if_neg hsixty, if_pos hearly]
    omega

theorem ofClock?_eq_some {d : Date} {c : Clock} {t : Timestamp} (h : ofClock? d c = some t) :
    t.date = d ∧ t.clock = c := by
  rw [ofClock?] at h
  split at h
  · cases h
    exact ⟨rfl, clock_ofClock _⟩
  · cases h

theorem minusMinutes?_zero (t : Timestamp) : t.minusMinutes? 0 = some t := by
  have hlt : (t.second : Int) < secondsPerDay := by exact_mod_cast t.second_lt
  have hday : ((t.second : Int) % secondsPerDay).toNat = t.second := by
    rw [Int.emod_eq_of_lt (by omega) hlt]
    rfl
  simp only [minusMinutes?, Int.zero_mul, Int.sub_zero, hday]
  rw [if_neg (by omega), if_neg (by omega)]
  rfl

/-! ## Fractions -/

/-- The fraction of a second as a text may show it, with the nanoseconds that it stands for: digits
after the ninth do not count. -/
inductive IsFraction : List Char → Nat → Prop where
  | none : IsFraction [] 0
  | digits {digits : List Char} (h : ∀ c ∈ digits, c.isDigit = true) (hne : digits ≠ []) :
      IsFraction ('.' :: digits)
        (Nat.ofDigitChars 10 (digits.take 9) 0 * Nat.pow 10 (9 - (digits.take 9).length))

/-- A fraction is read where it ends. -/
theorem IsFraction.read (h : IsFraction fraction nanos) (hdigit : NoDigit rest)
    (hpoint : rest.head? ≠ some '.') : readFraction? (fraction ++ rest) = some (nanos, rest) := by
  cases h with
  | none =>
    cases rest with
    | nil => rfl
    | cons c rest =>
      have hc : c ≠ '.' := by simpa using hpoint
      simp [readFraction?, hc]
  | @digits digits h hne =>
    have hdigits := Text.takeWhile_digits h hdigit
    have hdrop : (digits ++ rest).drop digits.length = rest := List.drop_left
    simp only [List.cons_append, readFraction?, fractionDigits?, hdigits, List.isEmpty_iff, hne,
      if_false, hdrop]

theorem exists_isFraction {t : List Char} (h : readFraction? t = some (nanos, rest)) :
    ∃ fraction, IsFraction fraction nanos ∧ t = fraction ++ rest := by
  unfold readFraction? at h
  split at h
  · rename_i t
    simp only [fractionDigits?, List.isEmpty_iff, Option.ite_none_left_eq_some,
      Option.some.injEq, Prod.mk.injEq] at h
    obtain ⟨hne, rfl, hrest⟩ := h
    have hall : ∀ c ∈ t.takeWhile Char.isDigit, c.isDigit = true :=
      List.all_eq_true.1 List.all_takeWhile
    refine ⟨_, .digits hall hne, ?_⟩
    rw [← hrest, List.cons_append, List.prefix_iff_eq_append.1 (List.takeWhile_prefix _)]
  · cases h
    exact ⟨[], .none, rfl⟩

theorem IsFraction.noDigit (h : IsFraction fraction nanos) (hrest : NoDigit rest) :
    NoDigit (fraction ++ rest) := by
  cases h with
  | none => exact hrest
  | digits => exact Text.noDigit_cons.2 rfl

/-- The digits of a fraction stand for as many nanoseconds as they would with zeros behind them. -/
theorem isFraction_padded {width n : Nat} (hwidth : 0 < width) (hnine : width ≤ 9)
    (hn : n < Nat.pow 10 width) (hnanos : n * Nat.pow 10 (9 - width) = nanos) :
    IsFraction ('.' :: padded width n) nanos := by
  have hlength := Text.length_padded hwidth hn
  have htake : (padded width n).take 9 = padded width n := List.take_of_length_le (by omega)
  have hne : padded width n ≠ [] := Text.padded_ne_nil
  have hfraction := IsFraction.digits (fun _ => Text.isDigit_of_mem_padded) hne
  rwa [htake, Text.ofDigitChars_padded, hlength, hnanos] at hfraction

/-- The shortest exact fraction stands for what it has been written for. -/
theorem isFraction_writeFraction (h : nanos < nanosPerSecond) :
    IsFraction (writeFraction nanos) nanos := by
  simp only [nanosPerSecond] at h
  unfold writeFraction
  split
  · rename_i hzero
    rw [hzero]
    exact .none
  split
  · have hn : nanos / 1000000 < 1000 := by omega
    have hnanos : nanos / 1000000 * 1000000 = nanos := by omega
    exact isFraction_padded (by decide) (by decide) hn hnanos
  split
  · have hn : nanos / 1000 < 1000000 := by omega
    have hnanos : nanos / 1000 * 1000 = nanos := by omega
    exact isFraction_padded (by decide) (by decide) hn hnanos
  · exact isFraction_padded (by decide) (by decide) h (Nat.mul_one nanos)

/-! ## Both forms -/

/-- The text of an instant without its offset. -/
def writePlain (t : Timestamp) : List Char :=
  Date.writeYear t.date.year ++ '-' :: (padded 2 t.date.month ++ '-' :: (padded 2 t.date.day ++
    'T' :: (padded 2 t.clock.hour ++ ':' :: (padded 2 t.clock.minute ++
      ':' :: (padded 2 t.clock.second ++ writeFraction t.clock.nanos)))))

theorem write_eq (t : Timestamp) : t.write = t.writePlain ++ "+00:00".toList := by
  simp [write, writePlain, Date.write]

/-- What may stand between the date and the time of RFC 3339. -/
def IsSeparator (c : Char) : Prop := c = 'T' ∨ c = 't' ∨ c = ' '

theorem separator?_eq_some_iff {t : List Char} :
    separator? t = some rest ↔ ∃ c, IsSeparator c ∧ t = c :: rest := by
  constructor
  · intro h
    unfold separator? at h
    split at h
    · cases h
      exact ⟨_, .inl rfl, rfl⟩
    · cases h
      exact ⟨_, .inr (.inl rfl), rfl⟩
    · cases h
      exact ⟨_, .inr (.inr rfl), rfl⟩
    · cases h
  · rintro ⟨c, rfl | rfl | rfl, rfl⟩ <;> rfl

theorem IsSeparator.noDigit {c : Char} (h : IsSeparator c) (rest : List Char) :
    NoDigit (c :: rest) := by
  rcases h with rfl | rfl | rfl <;> exact Text.noDigit_cons.2 rfl

/-- The text of an instant up to its seconds, with any separator. -/
def front (t : Timestamp) (separator : Char) : List Char :=
  Date.writeYear t.date.year ++ '-' :: (padded 2 t.date.month ++ '-' :: (padded 2 t.date.day ++
    separator :: (padded 2 t.clock.hour ++ ':' :: (padded 2 t.clock.minute ++
      ':' :: padded 2 t.clock.second))))

theorem writePlain_eq (t : Timestamp) :
    t.writePlain = t.front 'T' ++ writeFraction t.clock.nanos := by
  simp [writePlain, front]

theorem fixedNumeral?_two {n : Nat} (hn : n < 100) (rest : List Char) :
    Text.fixedNumeral? 2 (padded 2 n ++ rest) = some (n, rest) :=
  Text.fixedNumeral?_padded (by decide) hn rest

section front

variable {t : Timestamp} {separator : Char} (hfraction : IsFraction fraction t.clock.nanos)
  (hseparator : IsSeparator separator) (hdigit : NoDigit rest) (hpoint : rest.head? ≠ some '.')
include hfraction hseparator hdigit hpoint

/-- In a year of four digits, all but the offset is in the form of RFC 3339. -/
theorem readInternet?_front (h : IsPlainYear t.date.year) :
    readInternet? (t.front separator ++ (fraction ++ rest)) =
      (readOffset? rest).bind fun (offset, rest) =>
        if rest.isEmpty then t.minusMinutes? offset else none := by
  obtain ⟨hhour, hminute, hsecond, hnanos⟩ := t.clock_twoDigits
  have hyear : t.date.year.natAbs < 10000 ∧ (t.date.year.natAbs : Int) = t.date.year := by
    obtain ⟨hlow, hhigh⟩ := h
    omega
  have hfour : 0 < 4 := by decide
  have hclock : ofClock? t.date ⟨t.clock.hour, t.clock.minute, t.clock.second, t.clock.nanos⟩ =
      some t := t.ofClock?_clock
  simp only [front, Date.writeYear_plain h, List.append_assoc, List.cons_append]
  refine bind_of_eq_some (Text.fixedNumeral?_padded hfour hyear.1 _) ?_
  refine bind_of_eq_some (Text.expect?_cons '-' _) ?_
  refine bind_of_eq_some (fixedNumeral?_two t.date.month_lt _) ?_
  refine bind_of_eq_some (Text.expect?_cons '-' _) ?_
  refine bind_of_eq_some (fixedNumeral?_two t.date.day_lt _) ?_
  refine bind_of_eq_some (separator?_eq_some_iff.2 ⟨_, hseparator, rfl⟩) ?_
  refine bind_of_eq_some (fixedNumeral?_two hhour _) ?_
  refine bind_of_eq_some (Text.expect?_cons ':' _) ?_
  refine bind_of_eq_some (fixedNumeral?_two hminute _) ?_
  refine bind_of_eq_some (Text.expect?_cons ':' _) ?_
  refine bind_of_eq_some (fixedNumeral?_two hsecond _) ?_
  refine bind_of_eq_some (hfraction.read hdigit hpoint) ?_
  simp only [hyear.2, Date.of?_self, hclock, Option.bind_eq_bind, Option.bind_some]

/-- The plain form has a capital T between the date and the time, and ends where an offset would
stand. -/
theorem readPlain?_front :
    readPlain? (t.front separator ++ (fraction ++ rest)) =
      if separator = 'T' ∧ rest = [] then some t else none := by
  obtain ⟨hhour, hminute, hsecond, hnanos⟩ := t.clock_twoDigits
  have hdash (rest : List Char) : NoDigit ('-' :: rest) := Text.noDigit_cons.2 rfl
  have hcolon (rest : List Char) : NoDigit (':' :: rest) := Text.noDigit_cons.2 rfl
  have hclock : ofClock? t.date ⟨t.clock.hour, t.clock.minute, t.clock.second, t.clock.nanos⟩ =
      some t := t.ofClock?_clock
  simp only [front, List.append_assoc, List.cons_append]
  refine bind_of_eq_some (Date.readYear?_writeYear _ (hdash _)) ?_
  refine bind_of_eq_some (Text.expect?_cons '-' _) ?_
  refine bind_of_eq_some (Date.numeral?_two t.date.month_lt (hdash _)) ?_
  refine bind_of_eq_some (Text.expect?_cons '-' _) ?_
  refine bind_of_eq_some (Date.numeral?_two t.date.day_lt (hseparator.noDigit _)) ?_
  by_cases hcapital : separator = 'T'
  · subst hcapital
    refine bind_of_eq_some (Text.expect?_cons 'T' _) ?_
    refine bind_of_eq_some (Date.numeral?_two hhour (hcolon _)) ?_
    refine bind_of_eq_some (Text.expect?_cons ':' _) ?_
    refine bind_of_eq_some (Date.numeral?_two hminute (hcolon _)) ?_
    refine bind_of_eq_some (Text.expect?_cons ':' _) ?_
    refine bind_of_eq_some (Date.numeral?_two hsecond (hfraction.noDigit hdigit)) ?_
    refine bind_of_eq_some (hfraction.read hdigit hpoint) ?_
    refine bind_of_eq_some t.date.of?_self ?_
    refine bind_of_eq_some hclock ?_
    simp only [List.isEmpty_iff, true_and]
  · simp [Text.expect?, hcapital]

end front

/-- What is in the form of RFC 3339 is the text of an instant in a year of four digits, with a
separator, a fraction and an offset. -/
theorem exists_front {text : List Char} {u : Timestamp} (h : readInternet? text = some u) :
    ∃ (t : Timestamp) (separator : Char) (fraction offsetText : List Char) (minutes : Int),
      IsPlainYear t.date.year ∧ IsSeparator separator ∧ IsFraction fraction t.clock.nanos ∧
      readOffset? offsetText = some (minutes, []) ∧
      text = t.front separator ++ (fraction ++ offsetText) ∧
      t.minusMinutes? minutes = some u := by
  obtain ⟨⟨year, t1⟩, hyear, h⟩ := Option.bind_eq_some_iff.1 h
  obtain ⟨t2, hdash1, h⟩ := Option.bind_eq_some_iff.1 h
  obtain ⟨⟨month, t3⟩, hmonth, h⟩ := Option.bind_eq_some_iff.1 h
  obtain ⟨t4, hdash2, h⟩ := Option.bind_eq_some_iff.1 h
  obtain ⟨⟨day, t5⟩, hday, h⟩ := Option.bind_eq_some_iff.1 h
  obtain ⟨t6, hsep, h⟩ := Option.bind_eq_some_iff.1 h
  obtain ⟨⟨hour, t7⟩, hhour, h⟩ := Option.bind_eq_some_iff.1 h
  obtain ⟨t8, hcolon1, h⟩ := Option.bind_eq_some_iff.1 h
  obtain ⟨⟨minute, t9⟩, hminute, h⟩ := Option.bind_eq_some_iff.1 h
  obtain ⟨t10, hcolon2, h⟩ := Option.bind_eq_some_iff.1 h
  obtain ⟨⟨second, t11⟩, hsecond, h⟩ := Option.bind_eq_some_iff.1 h
  obtain ⟨⟨nanos, t12⟩, hnanos, h⟩ := Option.bind_eq_some_iff.1 h
  obtain ⟨⟨minutes, t13⟩, hoffset, h⟩ := Option.bind_eq_some_iff.1 h
  obtain ⟨date, hdate, h⟩ := Option.bind_eq_some_iff.1 h
  obtain ⟨t, ht, h⟩ := Option.bind_eq_some_iff.1 h
  simp only [Option.ite_none_right_eq_some, List.isEmpty_iff] at h
  obtain ⟨rfl, hu⟩ := h
  have hfour : 0 < 4 := by decide
  have htwo : 0 < 2 := by decide
  obtain ⟨hdigits, rfl⟩ := (Text.fixedNumeral?_eq_some_iff hfour).1 hyear
  obtain ⟨-, rfl⟩ := (Text.fixedNumeral?_eq_some_iff htwo).1 hmonth
  obtain ⟨-, rfl⟩ := (Text.fixedNumeral?_eq_some_iff htwo).1 hday
  obtain ⟨-, rfl⟩ := (Text.fixedNumeral?_eq_some_iff htwo).1 hhour
  obtain ⟨-, rfl⟩ := (Text.fixedNumeral?_eq_some_iff htwo).1 hminute
  obtain ⟨-, rfl⟩ := (Text.fixedNumeral?_eq_some_iff htwo).1 hsecond
  obtain ⟨separator, hseparator, rfl⟩ := separator?_eq_some_iff.1 hsep
  obtain ⟨fraction, hfraction, rfl⟩ := exists_isFraction hnanos
  obtain rfl := Text.eq_cons_of_expect? hdash1
  obtain rfl := Text.eq_cons_of_expect? hdash2
  obtain rfl := Text.eq_cons_of_expect? hcolon1
  obtain rfl := Text.eq_cons_of_expect? hcolon2
  obtain ⟨hshown, hclock⟩ := ofClock?_eq_some ht
  obtain ⟨hdateYear, rfl, rfl⟩ := Date.of?_eq_some hdate
  have hplain : IsPlainYear t.date.year := by
    have hyear : year < 10000 := hdigits
    rw [hshown, hdateYear, IsPlainYear]
    omega
  refine ⟨t, separator, fraction, t12, minutes, hplain, hseparator, ?_, hoffset, ?_, hu⟩
  · rw [hclock]
    exact hfraction
  · rw [front, Date.writeYear_plain hplain, hclock, hshown, hdateYear]
    simp

/-- A year with a sign is none of RFC 3339. -/
theorem readInternet?_signed {t : Timestamp} (h : ¬ IsPlainYear t.date.year) (rest : List Char) :
    readInternet? (t.writePlain ++ rest) = none := by
  rw [writePlain]
  rcases Date.writeYear_signed h with ⟨-, hyear⟩ | ⟨-, hyear⟩
  all_goals
    rw [hyear]
    rfl

theorem readInternet?_writePlain {t : Timestamp} (h : IsPlainYear t.date.year)
    (hdigit : NoDigit rest) (hpoint : rest.head? ≠ some '.') :
    readInternet? (t.writePlain ++ rest) = (readOffset? rest).bind fun (offset, rest) =>
      if rest.isEmpty then t.minusMinutes? offset else none := by
  obtain ⟨-, -, -, hnanos⟩ := t.clock_twoDigits
  rw [writePlain_eq, List.append_assoc]
  exact readInternet?_front (isFraction_writeFraction hnanos) (.inl rfl) hdigit hpoint h

theorem readPlain?_writePlain (t : Timestamp) (hdigit : NoDigit rest)
    (hpoint : rest.head? ≠ some '.') :
    readPlain? (t.writePlain ++ rest) = if rest = [] then some t else none := by
  obtain ⟨-, -, -, hnanos⟩ := t.clock_twoDigits
  rw [writePlain_eq, List.append_assoc,
    readPlain?_front (isFraction_writeFraction hnanos) (.inl rfl) hdigit hpoint]
  simp only [true_and]

/-- With its offset, the text of an instant is read back in the years of four digits only. -/
theorem read?_write (t : Timestamp) :
    read? t.write = if IsPlainYear t.date.year then some t else none := by
  have hdigit : NoDigit "+00:00".toList := Text.noDigit_cons.2 rfl
  have hoffset : readOffset? "+00:00".toList = some (0, []) := by decide
  have hplain : readPlain? (t.writePlain ++ "+00:00".toList) = none :=
    t.readPlain?_writePlain hdigit (by decide)
  rw [write_eq, read?, hplain]
  split
  · rw [readInternet?_writePlain ‹_› hdigit (by decide), hoffset]
    simp [minusMinutes?_zero]
  · rw [readInternet?_signed ‹_›]
    rfl

theorem ofText?_toText (t : Timestamp) :
    ofText? t.toText = if IsPlainYear t.date.year then some t else none := by
  rw [ofText?, toText, String.toList_ofList, read?_write]

end NoteSearch.Calendar.Timestamp
