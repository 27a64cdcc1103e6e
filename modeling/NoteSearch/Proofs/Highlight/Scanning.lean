-- SUMMARY: A scan by bytes ends, its offsets stand between characters, and it finds the segments.
import NoteSearch.Proofs.Highlight.Segmentation

/-!
# Scanning by bytes

A scan moves from the end of one character to the end of another one, so it is never torn, and it
ends after one round for each character at most and one more. The ranges that it has found cut the
text into its segments.
-/

namespace NoteSearch.Highlight

variable {terms : List (List Char)} {text : String} {before chars rest : List Char} {rs : List Run}

/-! ## Slices between characters -/

theorem utf8Len_toList (text : String) : String.utf8Len text.toList = text.utf8ByteSize := by
  rw [← String.utf8ByteSize_ofList, String.ofList_toList]

/-- The offset at which a first part of the text ends stands between characters. -/
theorem isValid_utf8Len (h : text.toList = before ++ rest) :
    String.Pos.Raw.IsValid text ⟨String.utf8Len before⟩ := by
  rw [String.Pos.Raw.isValid_iff_exists_append]
  refine ⟨String.ofList before, String.ofList rest, ?_, ?_⟩
  · rw [← String.ofList_append, ← h, String.ofList_toList]
  · rw [String.Pos.Raw.ext_iff, String.byteIdx_rawEndPos, String.utf8ByteSize_ofList]

theorem extract_middle (a b c : ByteArray) :
    (a ++ (b ++ c)).extract a.size (a.size + b.size) = b := by
  calc (a ++ (b ++ c)).extract (a.size + 0) (a.size + b.size)
      = (b ++ c).extract 0 b.size := ByteArray.extract_append_size_add
    _ = b := ByteArray.extract_append_eq_left rfl

/-- The slice between the ends of two parts of the text is what stands between them. -/
theorem slice?_of_append (h : text.toList = before ++ (chars ++ rest)) :
    slice? text (String.utf8Len before) (String.utf8Len (before ++ chars)) =
      some (String.ofList chars) := by
  have hstart := isValid_utf8Len h
  have hstop := isValid_utf8Len (h.trans (List.append_assoc _ _ _).symm)
  have hle : String.utf8Len before ≤ String.utf8Len (before ++ chars) := by simp
  have hbytes : text.toByteArray = (String.ofList before).toByteArray ++
      ((String.ofList chars).toByteArray ++ (String.ofList rest).toByteArray) := by
    rw [← String.toByteArray_append, ← String.toByteArray_append, ← String.ofList_append,
      ← String.ofList_append, ← h, String.ofList_toList]
  have hsize (cs : List Char) : (String.ofList cs).toByteArray.size = String.utf8Len cs := by
    rw [String.size_toByteArray, String.utf8ByteSize_ofList]
  have hmiddle := extract_middle (String.ofList before).toByteArray (String.ofList chars).toByteArray
    (String.ofList rest).toByteArray
  rw [hsize, hsize, ← String.utf8Len_append, ← hbytes] at hmiddle
  rw [slice?, dif_pos ⟨hle, hstart, hstop⟩, Option.some.injEq, ← String.toByteArray_inj,
    String.toByteArray_extract]
  exact hmiddle

/-! ## Ranges -/

/-- The ranges of the marked runs, of which the first one begins at an offset. -/
def rangesFrom : (pos : Nat) → List Run → List (Nat × Nat)
  | _, [] => []
  | pos, ⟨chars, marked⟩ :: rs =>
    let stop := pos + String.utf8Len chars
    if marked then (pos, stop) :: rangesFrom stop rs else rangesFrom stop rs

/-- A character before the first run moves the ranges by its bytes. -/
theorem rangesFrom_consPlain (pos : Nat) (c : Char) (rs : List Run) :
    rangesFrom pos (consPlain c rs) = rangesFrom (pos + c.utf8Size) rs := by
  have hsingle : rangesFrom pos (⟨[c], false⟩ :: rs) = rangesFrom (pos + c.utf8Size) rs := by
    simp [rangesFrom]
  match rs, hsingle with
  | ⟨chars, false⟩ :: rs, _ =>
    simp only [consPlain, rangesFrom, String.utf8Len_cons, Bool.false_eq_true, ↓reduceIte]
    rw [Nat.add_assoc, Nat.add_comm c.utf8Size]
  | ⟨chars, true⟩ :: rs, hsingle => exact hsingle
  | [], hsingle => exact hsingle

/-! ## Rounds of a scan -/

/-- A scan at the end of a first part of the text sees the rest of it. -/
theorem slice?_rest (h : text.toList = before ++ rest) :
    (slice? text (String.utf8Len before) text.utf8ByteSize).map String.toList = some rest := by
  have hwhole : text.toList = before ++ (rest ++ []) := by rw [h, List.append_nil]
  have hslice := slice?_of_append hwhole
  rw [← h, utf8Len_toList] at hslice
  rw [hslice, Option.map_some, String.toList_ofList]

theorem next_at_end (h : text.toList = before) (found : List (Nat × Nat)) :
    Scan.next terms text (.reading (String.utf8Len before) found) = .finished found := by
  have hwhole : text.toList = before ++ [] := by rw [h, List.append_nil]
  simp only [Scan.next, slice?_rest hwhole]

theorem next_of_longest {c : Char} {cs : List Char} (h : text.toList = before ++ (c :: cs))
    {n : Nat} (hn : longestMatch? terms (c :: cs) = some n) (found : List (Nat × Nat)) :
    Scan.next terms text (.reading (String.utf8Len before) found) =
      .reading (String.utf8Len (before ++ (c :: cs).take n))
        (found ++ [(String.utf8Len before, String.utf8Len (before ++ (c :: cs).take n))]) := by
  simp only [Scan.next, slice?_rest h, longestBytes?_eq, hn, Option.map_some, String.utf8Len_append]

theorem next_of_silent {c : Char} {cs : List Char} (h : text.toList = before ++ (c :: cs))
    (hsilent : longestMatch? terms (c :: cs) = none) (found : List (Nat × Nat)) :
    Scan.next terms text (.reading (String.utf8Len before) found) =
      .reading (String.utf8Len (before ++ [c])) found := by
  simp only [Scan.next, slice?_rest h, longestBytes?_eq, hsilent, Option.map_none,
    String.utf8Len_append, String.utf8Len_cons, String.utf8Len_nil, Nat.zero_add]

/-- From the end of a first part of the text, a scan finds the ranges of the runs of the rest. -/
theorem scan_finishes (before rest : List Char) (h : text.toList = before ++ rest)
    (found : List (Nat × Nat)) :
    ∃ n ≤ rest.length + 1,
      (Scan.next terms text)^[n] (.reading (String.utf8Len before) found) =
        .finished (found ++ rangesFrom (String.utf8Len before) (runs terms rest)) := by
  induction rest using runs.induct terms generalizing before found with
  | case1 =>
    refine ⟨1, Nat.le_refl _, ?_⟩
    simp only [Function.iterate_one, runs_nil, rangesFrom, List.append_nil]
    exact next_at_end (h.trans (List.append_nil _)) found
  | case2 c cs k hk ih =>
    have hpos := pos_of_longestMatch? hk
    obtain ⟨m, rfl⟩ := Nat.exists_eq_succ_of_ne_zero hpos.ne'
    have hrest : text.toList = before ++ (c :: cs).take (m + 1) ++ cs.drop m := by
      rw [List.append_assoc, h]
      simp
    obtain ⟨n, hn, hfinished⟩ := ih _ hrest
      (found ++ [(String.utf8Len before, String.utf8Len (before ++ (c :: cs).take (m + 1)))])
    refine ⟨n + 1, ?_, ?_⟩
    · simp only [Nat.succ_eq_add_one, Nat.add_sub_cancel, List.length_drop] at hn
      simp only [List.length_cons]
      omega
    · rw [Function.iterate_succ_apply, next_of_longest h hk, hfinished, runs_of_longest hk]
      simp [rangesFrom, String.utf8Len_append]
  | case3 c cs hnone ih =>
    obtain ⟨n, hn, hfinished⟩ := ih (before ++ [c]) (by simpa using h) found
    refine ⟨n + 1, Nat.succ_le_succ hn, ?_⟩
    rw [Function.iterate_succ_apply, next_of_silent h hnone, hfinished,
      runs_of_silent (longestMatch?_eq_none_iff.1 hnone), rangesFrom_consPlain]
    simp [String.utf8Len_append]

/-! ## Segments from ranges -/

theorem plainBetween?_of_append (h : text.toList = before ++ (chars ++ rest)) :
    plainBetween? text (String.utf8Len before) (String.utf8Len (before ++ chars)) =
      some (if chars = [] then [] else [⟨String.ofList chars, false⟩]) := by
  unfold plainBetween?
  rw [slice?_of_append h, String.utf8Len_append]
  cases chars with
  | nil => simp
  | cons c cs =>
    have hpos : 0 < String.utf8Len (c :: cs) := Nat.add_pos_right _ c.utf8Size_pos
    rw [if_pos (Nat.lt_add_of_pos_right hpos), if_neg (List.cons_ne_nil _ _), Option.map_some]

/-- The ranges of a segmentation give back its segments. The plain segment before the ranges,
`pending`, is only cut off when the next one begins or the text ends. -/
theorem segmentsFrom?_rangesFrom (h : Segmented terms rest rs) {before pending : List Char}
    (htext : text.toList = before ++ (pending ++ rest))
    (hpending : pending ≠ [] → ∀ r ∈ rs.head?, r.marked = true) :
    segmentsFrom? text (String.utf8Len before)
        (rangesFrom (String.utf8Len (before ++ pending)) rs) =
      some ((if pending = [] then [] else [⟨String.ofList pending, false⟩]) ++
        rs.map Run.toSegment) := by
  induction h generalizing before pending with
  | nil =>
    have hsize : text.utf8ByteSize = String.utf8Len (before ++ pending) := by
      rw [← utf8Len_toList, htext, List.append_nil]
    rw [rangesFrom, segmentsFrom?, hsize, plainBetween?_of_append htext]
    simp
  | @marked chars rest rs hlongest hrest ih =>
    have hmarked : text.toList = before ++ pending ++ (chars ++ rest) := by
      rw [htext, List.append_assoc]
    have hafter : text.toList = (before ++ pending ++ chars) ++ ([] ++ rest) := by
      simp [htext]
    have hsegments := ih hafter (fun hne => absurd rfl hne)
    have hstop : String.utf8Len (before ++ pending) + String.utf8Len chars =
        String.utf8Len (before ++ pending ++ chars) := (String.utf8Len_append _ _).symm
    rw [List.append_nil] at hsegments
    simp only [rangesFrom, ↓reduceIte, segmentsFrom?, hstop, plainBetween?_of_append htext,
      slice?_of_append hmarked, hsegments, List.map_cons, Run.toSegment, List.nil_append]
  | @plain chars rest rs hne hsilent hnext hrest ih =>
    have hnone : pending = [] := by
      by_contra hsome
      exact absurd (hpending hsome _ rfl) Bool.false_ne_true
    subst hnone
    have hpart : text.toList = before ++ (chars ++ rest) := htext
    have hsegments := ih hpart (fun _ => hnext)
    simp only [rangesFrom, Bool.false_eq_true, ↓reduceIte, List.append_nil,
      ← String.utf8Len_append, hsegments, if_neg hne]
    rfl

theorem Segmented.eq_nil {chars : List Char} (h : Segmented terms chars []) : chars = [] := by
  cases h
  rfl

theorem segmentsOfRanges?_rangesFrom (terms : Terms) (text : String) :
    segmentsOfRanges? text (rangesFrom 0 (runs terms.toLists text.toList)) =
      some (segments terms text) := by
  have hruns := segmented_runs terms.toLists text.toList
  have hsplit : text.toList = [] ++ ([] ++ text.toList) := rfl
  have hsegments := segmentsFrom?_rangesFrom hruns hsplit (fun hne => absurd rfl hne)
  simp only [List.append_nil, String.utf8Len_nil, ↓reduceIte, List.nil_append] at hsegments
  rw [segmentsOfRanges?, hsegments, Option.map_some, Option.some.injEq, segments]
  cases hchars : text.toList with
  | nil => simp
  | cons c cs =>
    rw [hchars] at hruns
    have hne : runs terms.toLists (c :: cs) ≠ [] := by
      intro hnil
      rw [hnil] at hruns
      exact absurd hruns.eq_nil (List.cons_ne_nil c cs)
    simp [hne]

/-- Marking a text ends and gives its only leftmost-longest segmentation: a scan of its bytes
finishes, the slices at the ranges that it has found all exist, and they are the segments. -/
theorem segments_leftmost_longest (terms : Terms) (text : String) :
    (∃ n ≤ text.length + 1, ∃ ranges,
      (Scan.next terms.toLists text)^[n] (.reading 0 []) = .finished ranges ∧
      segmentsOfRanges? text ranges = some (segments terms text)) ∧
    ∀ segs, LeftmostLongest terms.toLists text segs ↔ segs = segments terms text := by
  constructor
  · have hscan : ∃ n ≤ text.toList.length + 1,
        (Scan.next terms.toLists text)^[n] (.reading 0 []) =
          .finished (rangesFrom 0 (runs terms.toLists text.toList)) :=
      scan_finishes [] text.toList rfl []
    obtain ⟨n, hn, hfinished⟩ := hscan
    exact ⟨n, hn, _, hfinished, segmentsOfRanges?_rangesFrom terms text⟩
  · exact leftmostLongest_iff terms text

end NoteSearch.Highlight
