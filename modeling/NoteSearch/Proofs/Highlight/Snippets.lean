-- SUMMARY: A snippet is cut between characters, and a cut of a cut is the shorter one of the two.
import NoteSearch.Highlight.Snippet
import NoteSearch.Proofs.Highlight.Scanning

/-!
# Cutting snippets

The limit of a snippet counts characters and its cut is a byte offset, but the offset is where the
characters that are kept end, so it never tears one apart. A cut snippet is longer than its limit by
the ellipsis. All the same a second cut that is not longer than the first falls into what the first
one has kept of the text, and so it is as if the text had been cut only once.
-/

namespace NoteSearch.Highlight.Snippet

variable {limit most : Nat} {text : String} {t : List Char}

/-! ## Characters -/

theorem cut_of_length_le (h : t.length ≤ limit) : cut limit t = t := if_pos h

theorem cut_of_lt_length (h : limit < t.length) : cut limit t = t.take limit ++ ellipsis :=
  if_neg (Nat.not_le.2 h)

/-- What a first cut has added is cut off by a second one that is not longer. -/
theorem cut_cut (h : limit ≤ most) (t : List Char) : cut limit (cut most t) = cut limit t := by
  rcases Nat.lt_or_ge most t.length with hlong | hshort
  · have hkept : (t.take most).length = most := List.length_take_of_le (Nat.le_of_lt hlong)
    have hcut : limit < (t.take most ++ ellipsis).length := by
      simp only [List.length_append, hkept, ellipsis, List.length_cons, List.length_nil]
      omega
    have htake : (t.take most ++ ellipsis).take limit = t.take limit := by
      rw [List.take_append_of_le_length (hkept.symm ▸ h), List.take_take, Nat.min_eq_left h]
    rw [cut_of_lt_length hlong, cut_of_lt_length hcut, htake,
      cut_of_lt_length (Nat.lt_of_le_of_lt h hlong)]
  · rw [cut_of_length_le hshort]

/-! ## Bytes -/

/-- A character begins where the ones before it end. -/
theorem offsetsFrom_getElem? (pos : Nat) (t : List Char) (n : Nat) :
    (offsetsFrom pos t)[n]? =
      if n < t.length then some (pos + String.utf8Len (t.take n)) else none := by
  induction t generalizing pos n with
  | nil => simp [offsetsFrom]
  | cons c cs ih =>
    cases n with
    | zero => simp [offsetsFrom]
    | succ n =>
      simp only [offsetsFrom, List.getElem?_cons_succ, ih, List.length_cons, List.take_succ_cons,
        String.utf8Len_cons, Nat.succ_lt_succ_iff]
      congr 2
      omega

/-- The cut is at the end of the characters that are kept. -/
theorem cutOffset?_eq (limit : Nat) (text : String) : cutOffset? limit text =
    if limit < text.length then some (String.utf8Len (text.toList.take limit)) else none := by
  rw [cutOffset?, offsetsFrom_getElem?, String.length_toList, Nat.zero_add]

theorem isValid_cutOffset {offset : Nat} (h : cutOffset? limit text = some offset) :
    String.Pos.Raw.IsValid text ⟨offset⟩ := by
  rw [cutOffset?_eq] at h
  split at h
  · rw [← Option.some.inj h]
    exact isValid_utf8Len (List.take_append_drop limit text.toList).symm
  · cases h

theorem truncateBytes?_eq (limit : Nat) (text : String) :
    truncateBytes? limit text = some (truncate limit text) := by
  rcases Nat.lt_or_ge limit text.length with hlong | hshort
  · have hparts : text.toList = [] ++ (text.toList.take limit ++ text.toList.drop limit) := by simp
    have hslice := slice?_of_append hparts
    rw [List.nil_append, String.utf8Len_nil] at hslice
    rw [truncateBytes?, cutOffset?_eq, if_pos hlong, truncate, cut_of_lt_length hlong]
    simp only [hslice, Option.map_some, String.ofList_append]
  · rw [truncateBytes?, cutOffset?_eq, if_neg (Nat.not_lt.2 hshort), truncate,
      cut_of_length_le hshort, String.ofList_toList]

/-! ## Snippets -/

/-- Cutting a text at a byte offset always has a result, since the offset is between characters. It
is the text itself if that is not longer than the limit, and otherwise its first characters, as many
as the limit says, and an ellipsis. A text that has been cut is cut again as if it were whole, if the
second limit is not above the first; so a second cut with the same limit changes nothing. -/
theorem snippets_cut_between_characters (limit : Nat) (text : String) :
    truncateBytes? limit text = some (truncate limit text) ∧
    (∀ offset ∈ cutOffset? limit text, String.Pos.Raw.IsValid text ⟨offset⟩) ∧
    (text.length ≤ limit → truncate limit text = text) ∧
    (limit < text.length → ∃ first rest : String, text = first ++ rest ∧ first.length = limit ∧
      truncate limit text = first ++ "...") ∧
    (∀ most, limit ≤ most → truncate limit (truncate most text) = truncate limit text) ∧
    truncate limit (truncate limit text) = truncate limit text := by
  have hcut (most : Nat) (h : limit ≤ most) :
      truncate limit (truncate most text) = truncate limit text := by
    rw [truncate, truncate, String.toList_ofList, cut_cut h, truncate]
  refine ⟨truncateBytes?_eq limit text, fun offset => isValid_cutOffset, fun hshort => ?_,
    fun hlong => ?_, hcut, hcut limit (Nat.le_refl _)⟩
  · rw [truncate, cut_of_length_le hshort, String.ofList_toList]
  · refine ⟨String.ofList (text.toList.take limit), String.ofList (text.toList.drop limit), ?_, ?_,
      ?_⟩
    · rw [← String.ofList_append, List.take_append_drop, String.ofList_toList]
    · rw [String.length_ofList, List.length_take_of_le (Nat.le_of_lt hlong)]
    · rw [truncate, cut_of_lt_length hlong, String.ofList_append]
      rfl

/-- The characters before the cut have more than one byte each, and the cut text is longer than the
limit of the second cut only by its ellipsis. -/
theorem snippet_cut_twice :
    let text := "äöüß"
    truncate 3 text = "äöü..." ∧ cutOffset? 3 text = some 6 ∧
      String.Pos.Raw.IsValid text ⟨6⟩ ∧ truncate 4 text = text ∧
      truncate 2 (truncate 3 text) = truncate 2 text ∧
      truncate 3 (truncate 3 text) = truncate 3 text := by
  intro text
  have hoffset : cutOffset? 3 text = some 6 := by decide +kernel
  obtain ⟨-, hvalid, -, -, -, htwice⟩ := snippets_cut_between_characters 3 text
  obtain ⟨-, -, -, -, hshorter, -⟩ := snippets_cut_between_characters 2 text
  obtain ⟨-, -, hwhole, -, -, -⟩ := snippets_cut_between_characters 4 text
  refine ⟨by decide +kernel, hoffset, hvalid 6 hoffset, hwhole (by decide +kernel),
    hshorter 3 (by decide), htwice⟩

end NoteSearch.Highlight.Snippet
