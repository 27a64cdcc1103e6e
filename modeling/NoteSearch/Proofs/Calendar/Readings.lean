-- SUMMARY: An instant is read alike in both forms, and an offset moves it along the time line.
import NoteSearch.Proofs.Calendar.DayCount
import NoteSearch.Proofs.Calendar.TimestampText

/-!
# Readings of one text

A text without an offset is read in the plain form, and as an instant of RFC 3339 if an offset is
put behind it. Such a text has all its digits in place, so either reader finds the same date, the
same time and the same fraction in it (`Timestamp.exists_front_of_zulu`). With `Z` behind it, it is
the same instant; with any other offset it is as much earlier or later on the time line as the
offset says, with the same second on the clock, a leap second included, and the same fraction
(`Timestamp.readings_agree`).
-/

namespace NoteSearch.Calendar

open Text (NoDigit padded bind_of_eq_some)

/-! ## Offsets -/

/-- The sign of an offset. -/
inductive OffsetSign where
  | plus
  | hyphen
  /-- The minus sign proper. -/
  | minus

namespace OffsetSign

def toChar : OffsetSign → Char
  | plus => '+'
  | hyphen => '-'
  | minus => '\u2212'

def factor : OffsetSign → Int
  | plus => 1
  | hyphen => -1
  | minus => -1

end OffsetSign

/-- The offsets from universal time of RFC 3339. -/
inductive Offset where
  | zulu (isCapital : Bool)
  | numeric (sign : OffsetSign) (hours minutes : Nat) (hhours : hours < 24)
      (hminutes : minutes < 60)

namespace Offset

/-- By how many minutes the clock is ahead of universal time. -/
def ahead : Offset → Int
  | zulu _ => 0
  | numeric sign hours minutes _ _ => sign.factor * (hours * 60 + minutes : Nat)

def write : Offset → List Char
  | zulu isCapital => [if isCapital then 'Z' else 'z']
  | numeric sign hours minutes _ _ =>
    sign.toChar :: (padded 2 hours ++ ':' :: padded 2 minutes)

def toText (o : Offset) : String := String.ofList o.write

theorem ahead_bounds (o : Offset) : -1440 < o.ahead ∧ o.ahead < 1440 := by
  cases o with
  | zulu => simp [ahead]
  | numeric sign hours minutes hhours hminutes =>
    cases sign <;> simp only [ahead, OffsetSign.factor] <;> omega

/-- An offset does not go on with what stands before it. -/
theorem head?_write (o : Offset) :
    ∃ c t, o.write = c :: t ∧ c.isDigit = false ∧ c ≠ '.' := by
  cases o with
  | zulu isCapital => cases isCapital <;> exact ⟨_, _, rfl, by decide, by decide⟩
  | numeric sign => cases sign <;> exact ⟨_, _, rfl, by decide, by decide⟩

theorem noDigit_write (o : Offset) : NoDigit o.write := by
  obtain ⟨c, t, hwrite, hdigit, -⟩ := o.head?_write
  rw [hwrite]
  exact Text.noDigit_cons.2 hdigit

theorem head?_write_ne (o : Offset) : o.write.head? ≠ some '.' := by
  obtain ⟨c, t, hwrite, -, hpoint⟩ := o.head?_write
  simp [hwrite, hpoint]

/-- Of all offsets, only `Z` ends with that letter. -/
theorem write_eq_zulu {o : Offset} (h : o.write.getLast? = some 'Z') : o.write = ['Z'] := by
  cases o with
  | zulu isCapital => cases isCapital <;> simp_all [write]
  | numeric sign hours minutes =>
    have hletter (n : Nat) : 'Z' ∉ padded 2 n := fun hmem =>
      absurd (Text.isDigit_of_mem_padded hmem) (by decide)
    have hmem := List.mem_of_getLast? h
    simp only [write, List.mem_cons, List.mem_append, hletter, false_or, or_false] at hmem
    rcases hmem with hsign | hcolon
    · cases sign <;> cases hsign
    · cases hcolon

end Offset

namespace Timestamp

variable {t rest : List Char} {minutes : Int}

theorem offsetSign?_eq_some_iff {factor : Int} : offsetSign? t = some (factor, rest) ↔
    ∃ sign : OffsetSign, sign.factor = factor ∧ t = sign.toChar :: rest := by
  constructor
  · intro h
    unfold offsetSign? at h
    split at h
    · cases h
      exact ⟨.plus, rfl, rfl⟩
    · cases h
      exact ⟨.hyphen, rfl, rfl⟩
    · cases h
      exact ⟨.minus, rfl, rfl⟩
    · cases h
  · rintro ⟨sign, rfl, rfl⟩
    cases sign <;> rfl

/-- What is read as an offset is one. -/
theorem exists_offset (h : readOffset? t = some (minutes, rest)) :
    ∃ o : Offset, o.ahead = minutes ∧ t = o.write ++ rest := by
  unfold readOffset? at h
  split at h
  · cases h
    exact ⟨.zulu true, rfl, rfl⟩
  · cases h
    exact ⟨.zulu false, rfl, rfl⟩
  · simp only [Option.bind_eq_bind, Option.bind_eq_some_iff, Prod.exists,
      Option.ite_none_right_eq_some, Option.some.injEq, Prod.mk.injEq] at h
    obtain ⟨factor, t1, hsign, hours, t2, hhours, t3, hcolon, minutes, t4, hminutes,
      ⟨hhour, hminute⟩, rfl, rfl⟩ := h
    obtain ⟨sign, rfl, rfl⟩ := offsetSign?_eq_some_iff.1 hsign
    obtain ⟨-, rfl⟩ := (Text.fixedNumeral?_eq_some_iff (by decide)).1 hhours
    obtain ⟨-, rfl⟩ := (Text.fixedNumeral?_eq_some_iff (by decide)).1 hminutes
    obtain rfl := Text.eq_cons_of_expect? hcolon
    exact ⟨.numeric sign hours minutes hhour hminute, rfl, by simp [Offset.write]⟩

/-- Any offset is read where it ends. -/
theorem readOffset?_write (o : Offset) (rest : List Char) :
    readOffset? (o.write ++ rest) = some (o.ahead, rest) := by
  cases o with
  | zulu isCapital => cases isCapital <;> rfl
  | numeric sign hours minutes hhours hminutes =>
    have hsign (t : List Char) : offsetSign? (sign.toChar :: t) = some (sign.factor, t) :=
      offsetSign?_eq_some_iff.2 ⟨sign, rfl, rfl⟩
    have hletter (c : Char) (h : c = 'Z' ∨ c = 'z') : sign.toChar ≠ c := by
      rcases h with rfl | rfl <;> cases sign <;> decide
    simp only [Offset.write, List.cons_append, List.append_assoc]
    rw [readOffset?]
    · refine bind_of_eq_some (hsign _) ?_
      refine bind_of_eq_some (fixedNumeral?_two (by omega) _) ?_
      refine bind_of_eq_some (Text.expect?_cons ':' _) ?_
      refine bind_of_eq_some (fixedNumeral?_two (by omega) _) ?_
      exact if_pos ⟨hhours, hminutes⟩
    · simp [hletter]
    · simp [hletter]

/-! ## Moved instants -/

/-- By whole minutes, the seconds on the clock are not moved. -/
theorem clock_second_eq {t u : Timestamp} (hsecond : u.secondCount = t.secondCount - 60 * minutes)
    (hnanos : u.nanos = t.nanos) :
    u.clock.second = t.clock.second ∧ u.clock.nanos = t.clock.nanos := by
  simp only [secondCount, secondsPerDay] at hsecond
  have hinMinute : u.second % 60 = t.second % 60 := by omega
  simp only [clock, hnanos, hinMinute, and_self]

/-! ## Texts that both forms read -/

section front

variable {t : Timestamp} {fraction : List Char} (hyear : Date.IsPlainYear t.date.year)
  (hfraction : IsFraction fraction t.clock.nanos)
include hyear hfraction

/-- Without an offset, the text is in the plain form only. -/
theorem read?_front : read? (t.front 'T' ++ fraction) = some t := by
  have hinternet := readInternet?_front hfraction (.inl rfl) Text.noDigit_nil (by simp) hyear
  have hplain := readPlain?_front hfraction (.inl rfl) Text.noDigit_nil (by simp)
  rw [List.append_nil] at hinternet hplain
  rw [read?, hinternet, hplain, if_pos ⟨rfl, rfl⟩]
  rfl

/-- With an offset, it is in the form of RFC 3339 only. -/
theorem read?_front_offset (o : Offset) :
    read? (t.front 'T' ++ fraction ++ o.write) = t.minusMinutes? o.ahead := by
  have hoffset := readOffset?_write o []
  rw [List.append_nil] at hoffset
  have hne : o.write ≠ [] := by
    obtain ⟨c, rest, hwrite, -⟩ := o.head?_write
    simp [hwrite]
  rw [List.append_assoc, read?,
    readInternet?_front hfraction (.inl rfl) o.noDigit_write o.head?_write_ne hyear,
    readPlain?_front hfraction (.inl rfl) o.noDigit_write o.head?_write_ne, hoffset,
    if_neg fun h => hne h.2]
  simp

end front

/-- What is read in the plain form, and with `Z` in that of RFC 3339, has all its digits. -/
theorem exists_front_of_zulu {text : List Char} (hplain : (readPlain? text).isSome)
    (hzulu : (readInternet? (text ++ ['Z'])).isSome) :
    ∃ (t : Timestamp) (fraction : List Char), Date.IsPlainYear t.date.year ∧
      IsFraction fraction t.clock.nanos ∧ text = t.front 'T' ++ fraction := by
  obtain ⟨u, hu⟩ := Option.isSome_iff_exists.1 hzulu
  obtain ⟨t, separator, fraction, offsetText, minutes, hyear, hseparator, hfraction, hoffset,
    htext, -⟩ := exists_front hu
  obtain ⟨o, -, hwrite⟩ := exists_offset hoffset
  rw [List.append_nil] at hwrite
  obtain ⟨c, rest, hcons, -⟩ := o.head?_write
  -- The text ends with the last character of the offset, so the offset is `Z`.
  have hlast : o.write.getLast? = some 'Z' := by
    have hend := congrArg List.getLast? htext
    rw [hwrite] at hend
    simpa [List.getLast?_append, hcons] using hend.symm
  rw [hwrite, Offset.write_eq_zulu hlast, ← List.append_assoc, List.append_cancel_right_eq] at htext
  subst htext
  have hcapital : separator = 'T' := by
    have hread := readPlain?_front hfraction hseparator Text.noDigit_nil (by simp)
    rw [List.append_nil] at hread
    by_cases hcapital : separator = 'T'
    · exact hcapital
    · simp [hread, hcapital] at hplain
  exact ⟨t, fraction, hyear, hfraction, by rw [hcapital]⟩

/-- Both forms agree: with `Z` behind it, a text is the instant that it is without, and with any
offset it is the one instant that lies as far from it on the time line as the offset says. A leap
second stays one, and the fraction is kept. -/
theorem readings_agree (s : String) (hplain : (readPlain? s.toList).isSome)
    (hzulu : (readInternet? (s ++ "Z").toList).isSome) :
    ∃ t, ofText? s = some t ∧ ofText? (s ++ "Z") = some t ∧
      ∀ o : Offset, ∃ u, ofText? (s ++ o.toText) = some u ∧
        (∀ v : Timestamp, v = u ↔
          v.secondCount = t.secondCount - 60 * o.ahead ∧ v.nanos = t.nanos) ∧
        u.clock.second = t.clock.second ∧ u.clock.nanos = t.clock.nanos := by
  rw [String.toList_append] at hzulu
  obtain ⟨t, fraction, hyear, hfraction, htext⟩ := exists_front_of_zulu hplain hzulu
  have hoffset (o : Offset) : ofText? (s ++ o.toText) = t.minusMinutes? o.ahead := by
    rw [ofText?, String.toList_append, Offset.toText, String.toList_ofList, htext,
      read?_front_offset hyear hfraction]
  refine ⟨t, ?_, ?_, fun o => ?_⟩
  · rw [ofText?, htext, read?_front hyear hfraction]
  · exact (hoffset (.zulu true)).trans (minusMinutes?_zero t)
  obtain ⟨u, hu⟩ := exists_minusMinutes hyear o.ahead
  obtain ⟨hlow, hhigh⟩ := o.ahead_bounds
  obtain ⟨hsecond, hnanos⟩ := secondCount_minusMinutes hlow hhigh hu
  refine ⟨u, (hoffset o).trans hu, fun v => ⟨?_, ?_⟩, clock_second_eq hsecond hnanos⟩
  · rintro rfl
    exact ⟨hsecond, hnanos⟩
  · rintro ⟨hv, hvnanos⟩
    exact eq_of_secondCount (hv.trans hsecond.symm) (hvnanos.trans hnanos.symm)

/-- A leap second at the end of a day in February is one on the leap day, for a clock one minute
behind. -/
theorem readings_agree_leapDay :
    (readPlain? "2024-02-28T23:59:60.5".toList).isSome ∧
      (readInternet? "2024-02-28T23:59:60.5Z".toList).isSome ∧
      ∃ t u, ofText? "2024-02-28T23:59:60.5" = some t ∧
        ofText? "2024-02-28T23:59:60.5\u221200:01" = some u ∧
        u.secondCount = t.secondCount + 60 ∧ u.clock.second = 60 ∧
        u.toText = "2024-02-29T00:00:60.500+00:00" := by
  have hplain : (readPlain? "2024-02-28T23:59:60.5".toList).isSome := by decide +kernel
  have hzulu : (readInternet? ("2024-02-28T23:59:60.5" ++ "Z").toList).isSome := by decide +kernel
  obtain ⟨t, ht, -, hoffset⟩ := readings_agree "2024-02-28T23:59:60.5" hplain hzulu
  obtain ⟨u, hu, hline, hsecond, -⟩ :=
    hoffset (.numeric .minus 0 1 (by decide) (by decide))
  have hshown : (ofText? "2024-02-28T23:59:60.5").map (·.clock.second) = some 60 := by
    decide +kernel
  have htext : (ofText? "2024-02-28T23:59:60.5\u221200:01").map toText =
      some "2024-02-29T00:00:60.500+00:00" := by decide +kernel
  have hsame : "2024-02-28T23:59:60.5" ++
      (Offset.numeric .minus 0 1 (by decide) (by decide)).toText =
        "2024-02-28T23:59:60.5\u221200:01" := by decide +kernel
  rw [hsame] at hu
  rw [ht] at hshown
  rw [hu] at htext
  refine ⟨hplain, hzulu, t, u, ht, hu, ?_, ?_, ?_⟩
  · have hcount := ((hline u).1 rfl).1
    simp only [Offset.ahead, OffsetSign.factor] at hcount
    omega
  · rw [hsecond]
    exact Option.some.inj hshown
  · exact Option.some.inj htext

end Timestamp

end NoteSearch.Calendar
