-- SUMMARY: What has instants in it is read back in the years of four digits, and in no others.
import NoteSearch.Wire.Results
import NoteSearch.Proofs.Wire.Records

/-!
# Instants in records

An instant goes into a document with an offset, and with an offset only the years of four digits are
read. So a record that has been read is read again from its own document exactly if all its instants
are in those years. An offset can bring an instant out of them, even though the year in the text has
four digits.
-/

namespace NoteSearch.Wire

open Json Calendar
open Date (IsPlainYear)
open Text (bind_of_eq_some)

variable {score : Float → Tree} {h : Hit} {x : Float}

/-! ## Hits -/

/-- A hit with all of its fields. How a relevance is written is left to `score`. -/
def ofHit (score : Float → Tree) (h : Hit) : Tree :=
  ofMembers
    [("id", ofInt64 h.id),
      ("title", ofString h.title),
      ("note_type", ofOption (fun k => ofString k.toText) h.noteType),
      ("snippet", ofString h.snippet),
      ("tags", ofStrings h.tags),
      ("created_at", ofOption (fun t => ofString t.toText) h.createdAt),
      ("updated_at", ofOption (fun t => ofString t.toText) h.updatedAt),
      ("relevance_score", score h.relevance),
      ("match_locations", ofStrings h.matchedIn)]

/-- A hit is read back but for its relevance, which is read as it has been written. -/
theorem hit_ofHit (hscore : Reader.float (score h.relevance) = some x) : hit (ofHit score h) =
    if IsPlainTime h.createdAt ∧ IsPlainTime h.updatedAt then some { h with relevance := x }
    else none := by
  have hnames : hitFields.Nodup := by decide
  have hfields : (ofHit score h).fields? hitFields 0 = some _ := fields?_ofMembers hnames rfl 0
  have htype := optional_ofOption noteType_toText fun k => ofString_ne_null k.toText
  refine bind_of_eq_some hfields ?_
  refine bind_of_eq_some (required_of_eq (int64_ofInt64 h.id)) ?_
  refine bind_of_eq_some (required_of_eq (string_ofString h.title)) ?_
  refine bind_of_eq_some (htype h.noteType) ?_
  refine bind_of_eq_some (withDefault_of_eq (string_ofString h.snippet)) ?_
  refine bind_of_eq_some (withDefault_of_eq (strings_ofStrings h.tags)) ?_
  refine (bind_optional_timestamp h.createdAt h.updatedAt _).trans ?_
  refine if_congr Iff.rfl ?_ rfl
  refine bind_of_eq_some (withDefault_of_eq hscore) ?_
  exact bind_of_eq_some (withDefault_of_eq (strings_ofStrings h.matchedIn)) rfl

theorem isWritten_ofHit (hscore : (score h.relevance).IsWritten) : (ofHit score h).IsWritten := by
  simp [ofHit, hscore]

/-! ## Instants -/

/-- What is read from a text is read back from the text that it is written as exactly in the years
of four digits, and so are saved searches and hits with all of their instants; in any other year
nothing is read. -/
theorem timestamps_read_back_in_plain_years (text : String) (s : SavedSearch)
    (score : Float → Tree) (h : Hit) :
    (∀ t ∈ Timestamp.ofText? text,
      Timestamp.ofText? t.toText = if IsPlainYear t.date.year then some t else none) ∧
    ((Tree.ofText? (ofSavedSearch s).toText).bind savedSearch =
      if HasPlainTimes s then some s else none) ∧
    ∀ x, (score h.relevance).IsWritten → Reader.float (score h.relevance) = some x →
      (Tree.ofText? (ofHit score h).toText).bind hit =
        if IsPlainTime h.createdAt ∧ IsPlainTime h.updatedAt then some { h with relevance := x }
        else none := by
  refine ⟨fun t _ => t.ofText?_toText, ?_, fun x hwritten hscore => ?_⟩
  · rw [Tree.ofText?_toText (isWritten_ofSavedSearch s), Option.bind_some,
      savedSearch_ofSavedSearch]
  · rw [Tree.ofText?_toText (isWritten_ofHit hwritten), Option.bind_some, hit_ofHit hscore]

/-- The literal `0.0`. -/
def zeroLiteral : Number := ⟨false, ['0'], some ['0'], none⟩

theorem isLiteral_zeroLiteral : zeroLiteral.IsLiteral where
  whole := by simp [zeroLiteral, IsDigits]
  leading := fun _ => rfl
  fraction := by simp [zeroLiteral, IsDigits]
  exponent := by simp [zeroLiteral]

theorem exists_toFloat?_zeroLiteral : ∃ x, zeroLiteral.toFloat? = some x := by
  have hscale (f : Float) : Number.scale f (-1) = some (f / Float.ofScientific 1 false 1) := by
    rw [Number.scale, if_pos (by decide), if_neg (by decide)]
    rfl
  show ∃ x, (Number.scale _ (-1)).map _ = some x
  rw [hscale]
  exact ⟨_, rfl⟩

/-- An instant in the middle of the years is read back, by itself, in a saved search and in a
hit. -/
theorem timestamp_read_back :
    ∃ t x, Timestamp.ofText? "2024-10-02T10:00:00.123+02:00" = some t ∧
      Timestamp.ofText? t.toText = some t ∧
      (let s : SavedSearch := { id := 1, name := "recent", request := {}, createdAt := some t }
       (Tree.ofText? (ofSavedSearch s).toText).bind savedSearch = some s) ∧
      (let h : Hit := { id := 7, title := "Weekly meeting", createdAt := some t }
       (Tree.ofText? (ofHit (fun _ => .number zeroLiteral) h).toText).bind hit =
        some { h with relevance := x }) := by
  have hread : ((Timestamp.ofText? "2024-10-02T10:00:00.123+02:00").map (·.date.year)) =
      some 2024 := by decide +kernel
  obtain ⟨t, ht, hyear⟩ := Option.map_eq_some_iff.1 hread
  have hplain : IsPlainYear t.date.year := by
    rw [hyear]
    decide
  obtain ⟨x, hx⟩ := exists_toFloat?_zeroLiteral
  obtain ⟨htext, hsaved, hhit⟩ := timestamps_read_back_in_plain_years
    "2024-10-02T10:00:00.123+02:00"
    { id := 1, name := "recent", request := {}, createdAt := some t }
    (fun _ => .number zeroLiteral) { id := 7, title := "Weekly meeting", createdAt := some t }
  refine ⟨t, x, ht, ?_, ?_, ?_⟩
  · rw [htext t ht, if_pos hplain]
  · exact hsaved.trans (if_pos ⟨isPlainTime_none, isPlainTime_some.2 hplain⟩)
  · have hread := hhit x (Tree.isWritten_number.2 isLiteral_zeroLiteral) hx
    exact hread.trans (if_pos ⟨isPlainTime_some.2 hplain, isPlainTime_none⟩)

/-- The year in the text has four digits, but the instant is in the next one. -/
theorem timestamp_not_read_back :
    ∃ t, Timestamp.ofText? "9999-12-31T23:59:59-01:00" = some t ∧
      t.toText = "+10000-01-01T00:59:59+00:00" ∧ Timestamp.ofText? t.toText = none := by
  have hread : (Timestamp.ofText? "9999-12-31T23:59:59-01:00").map Timestamp.toText =
      some "+10000-01-01T00:59:59+00:00" := by decide +kernel
  obtain ⟨t, ht, htext⟩ := Option.map_eq_some_iff.1 hread
  refine ⟨t, ht, htext, ?_⟩
  rw [htext]
  decide +kernel

end NoteSearch.Wire
