-- SUMMARY: The segments of a text are its only leftmost-longest segmentation.
import NoteSearch.Proofs.Highlight.Matching

/-!
# Segmentations

A segmentation is leftmost-longest if its marked segments are longest matches where they begin and
no term matches anywhere inside a plain one. Every text has exactly one such segmentation, and the
segments of the text are it.
-/

namespace NoteSearch.Highlight

variable {terms : List (List Char)} {text rest cs : List Char} {rs : List Run} {c : Char} {n : Nat}

/-! ## Segmentations of characters -/

/-- Runs that make up a text: marked ones are longest matches, and plain ones are as long as no
term matches. -/
inductive Segmented (terms : List (List Char)) : List Char → List Run → Prop where
  | nil : Segmented terms [] []
  | marked {chars rest : List Char} {rs : List Run} (hlongest : IsLongest terms chars (chars ++ rest))
      (hrest : Segmented terms rest rs) : Segmented terms (chars ++ rest) (⟨chars, true⟩ :: rs)
  | plain {chars rest : List Char} {rs : List Run} (hne : chars ≠ [])
      (hsilent : ∀ later, later <:+ chars → later ≠ [] → IsSilent terms (later ++ rest))
      (hnext : ∀ r ∈ rs.head?, r.marked = true) (hrest : Segmented terms rest rs) :
      Segmented terms (chars ++ rest) (⟨chars, false⟩ :: rs)

theorem runs_of_longest (h : longestMatch? terms text = some n) :
    runs terms text = ⟨text.take n, true⟩ :: runs terms (text.drop n) := by
  have hpos := pos_of_longestMatch? h
  cases text with
  | nil =>
    obtain ⟨hle, -⟩ := longestMatch?_eq_some_iff.1 h
    exact absurd hle (Nat.not_le_of_gt hpos)
  | cons c cs =>
    obtain ⟨m, rfl⟩ := Nat.exists_eq_succ_of_ne_zero hpos.ne'
    rw [runs, h]
    rfl

theorem runs_of_silent (h : IsSilent terms (c :: cs)) :
    runs terms (c :: cs) = consPlain c (runs terms cs) := by
  rw [runs, longestMatch?_eq_none_iff.2 h]

theorem consPlain_of_marked (h : ∀ r ∈ rs.head?, r.marked = true) :
    consPlain c rs = ⟨[c], false⟩ :: rs := by
  cases rs with
  | nil => rfl
  | cons r rs =>
    obtain ⟨chars, marked⟩ := r
    obtain rfl : marked = true := h _ rfl
    rfl

/-- A character at which no term matches comes before a segmentation. -/
theorem Segmented.consPlain (h : Segmented terms cs rs) (hc : IsSilent terms (c :: cs)) :
    Segmented terms (c :: cs) (consPlain c rs) := by
  have hsingle (later : List Char) (hlater : later <:+ [c]) (hne : later ≠ []) : later = [c] :=
    (List.suffix_cons_iff.1 hlater).resolve_right fun hnil => hne (List.suffix_nil.1 hnil)
  cases h with
  | nil =>
    refine Segmented.plain (List.cons_ne_nil c []) ?_ nofun .nil
    rintro later hlater hne
    rw [hsingle later hlater hne]
    exact hc
  | @marked chars rest rs hlongest hrest =>
    refine Segmented.plain (List.cons_ne_nil c []) ?_ ?_ (.marked hlongest hrest)
    · rintro later hlater hne
      rw [hsingle later hlater hne]
      exact hc
    · rintro r ⟨⟩
      rfl
  | @plain chars rest rs hne hsilent hnext hrest =>
    refine Segmented.plain (List.cons_ne_nil c chars) ?_ hnext hrest
    intro later hlater hlaterNe
    rcases List.suffix_cons_iff.1 hlater with rfl | hlater
    · exact hc
    · exact hsilent later hlater hlaterNe

theorem segmented_runs (terms : List (List Char)) (text : List Char) :
    Segmented terms text (runs terms text) := by
  induction text using runs.induct terms with
  | case1 => simpa using Segmented.nil
  | case2 c cs n hn ih =>
    have hpos := pos_of_longestMatch? hn
    obtain ⟨m, rfl⟩ := Nat.exists_eq_succ_of_ne_zero hpos.ne'
    have hsplit := List.take_append_drop (m + 1) (c :: cs)
    have hlongest := (longestMatch?_eq_some_iff.1 hn).2
    rw [runs_of_longest hn]
    conv => lhs; rw [← hsplit]
    exact .marked (hsplit.symm ▸ hlongest) ih
  | case3 c cs hn ih =>
    have hsilent := longestMatch?_eq_none_iff.1 hn
    rw [runs_of_silent hsilent]
    exact ih.consPlain hsilent

/-- The runs of a text begin with a plain stretch in which no term matches. -/
theorem runs_append_of_silent {chars : List Char} (hne : chars ≠ [])
    (hsilent : ∀ later, later <:+ chars → later ≠ [] → IsSilent terms (later ++ rest))
    (hnext : ∀ r ∈ (runs terms rest).head?, r.marked = true) :
    runs terms (chars ++ rest) = ⟨chars, false⟩ :: runs terms rest := by
  induction chars with
  | nil => exact absurd rfl hne
  | cons c chars ih =>
    have hc : IsSilent terms (c :: (chars ++ rest)) := hsilent _ List.suffix_rfl hne
    rw [List.cons_append, runs_of_silent hc]
    cases chars with
    | nil => exact consPlain_of_marked hnext
    | cons d chars =>
      rw [ih (List.cons_ne_nil _ _) fun later hlater =>
        hsilent later (hlater.trans (List.suffix_cons _ _))]
      rfl

/-- There is no other segmentation than the runs of a text. -/
theorem Segmented.eq_runs (h : Segmented terms text rs) : rs = runs terms text := by
  induction h with
  | nil => simp
  | marked hlongest hrest ih =>
    rw [runs_of_longest hlongest.longestMatch?, List.take_left, List.drop_left, ← ih]
  | plain hne hsilent hnext hrest ih =>
    rw [ih] at hnext
    rw [runs_append_of_silent hne hsilent hnext, ← ih]

/-! ## Leftmost-longest segmentations -/

/-- The characters of segments, one after the other. -/
def textOf (segs : List Segment) : List Char := segs.flatMap fun s => s.text.toList

@[simp] theorem textOf_cons (s : Segment) (segs : List Segment) :
    textOf (s :: segs) = s.text.toList ++ textOf segs := rfl

/-- What a segmentation says about the matches of terms. -/
structure RespectsMatches (terms : List (List Char)) (segs : List Segment) : Prop where
  /-- Of two neighbours at least one is marked. -/
  separated : ∀ s t after, s :: t :: after <:+ segs → s.marked = true ∨ t.marked = true
  /-- A marked segment is the longest match where it begins. -/
  longest : ∀ s after, s :: after <:+ segs → s.marked = true →
    IsLongest terms s.text.toList (textOf (s :: after))
  /-- No term matches inside a plain segment, also none that reaches beyond it. -/
  silent : ∀ s after, s :: after <:+ segs → s.marked = false →
    ∀ later, later <:+ s.text.toList → later ≠ [] → IsSilent terms (later ++ textOf after)

/-- A segmentation of a text into longest matches from left to right. -/
structure LeftmostLongest (terms : List (List Char)) (text : String) (segs : List Segment) : Prop
    extends RespectsMatches terms segs where
  joined : textOf segs = text.toList
  /-- No segment is empty, unless it is the only one of the empty text. -/
  filled : if text = "" then segs = [⟨"", false⟩] else ∀ s ∈ segs, s.text ≠ ""

def Segment.toRun (s : Segment) : Run := ⟨s.text.toList, s.marked⟩

@[simp] theorem toRun_toSegment (r : Run) : r.toSegment.toRun = r := by
  simp [Run.toSegment, Segment.toRun]

@[simp] theorem toSegment_toRun (s : Segment) : s.toRun.toSegment = s := by
  simp [Run.toSegment, Segment.toRun]

theorem RespectsMatches.nil : RespectsMatches terms [] := by
  constructor <;> simp

theorem RespectsMatches.tail {s : Segment} {segs : List Segment}
    (h : RespectsMatches terms (s :: segs)) : RespectsMatches terms segs where
  separated s t after hsuffix := h.separated s t after (hsuffix.trans (List.suffix_cons _ _))
  longest s after hsuffix := h.longest s after (hsuffix.trans (List.suffix_cons _ _))
  silent s after hsuffix := h.silent s after (hsuffix.trans (List.suffix_cons _ _))

/-- What is to be said of a first segment and of its neighbour. -/
theorem RespectsMatches.cons {s : Segment} {segs : List Segment} (h : RespectsMatches terms segs)
    (hseparated : ∀ t ∈ segs.head?, s.marked = true ∨ t.marked = true)
    (hlongest : s.marked = true → IsLongest terms s.text.toList (textOf (s :: segs)))
    (hsilent : s.marked = false →
      ∀ later, later <:+ s.text.toList → later ≠ [] → IsSilent terms (later ++ textOf segs)) :
    RespectsMatches terms (s :: segs) where
  separated := by
    intro u t after hsuffix
    rcases List.suffix_cons_iff.1 hsuffix with heq | hsuffix
    · cases heq
      exact hseparated t rfl
    · exact h.separated u t after hsuffix
  longest := by
    intro u after hsuffix
    rcases List.suffix_cons_iff.1 hsuffix with heq | hsuffix
    · cases heq
      exact hlongest
    · exact h.longest u after hsuffix
  silent := by
    intro u after hsuffix
    rcases List.suffix_cons_iff.1 hsuffix with heq | hsuffix
    · cases heq
      exact hsilent
    · exact h.silent u after hsuffix

theorem RespectsMatches.segmented {segs : List Segment} (h : RespectsMatches terms segs)
    (hfilled : ∀ s ∈ segs, s.text ≠ "") :
    Segmented terms (textOf segs) (segs.map Segment.toRun) := by
  induction segs with
  | nil => exact .nil
  | cons s segs ih =>
    rw [List.forall_mem_cons] at hfilled
    have htail := ih h.tail hfilled.2
    rw [List.map_cons, textOf_cons, Segment.toRun]
    cases hs : s.marked with
    | true => exact .marked (h.longest s segs List.suffix_rfl hs) htail
    | false =>
      refine .plain ?_ (h.silent s segs List.suffix_rfl hs) ?_ htail
      · simpa using hfilled.1
      · intro r hr
        cases segs with
        | nil => cases hr
        | cons t after =>
          obtain rfl := Option.some.inj hr
          exact (h.separated s t after List.suffix_rfl).resolve_left (by simp [hs])

theorem Segmented.respectsMatches (h : Segmented terms text rs) :
    RespectsMatches terms (rs.map Run.toSegment) ∧ textOf (rs.map Run.toSegment) = text ∧
      ∀ s ∈ rs.map Run.toSegment, s.text ≠ "" := by
  induction h with
  | nil => exact ⟨.nil, rfl, nofun⟩
  | @marked chars rest rs hlongest hrest ih =>
    obtain ⟨hrespects, htext, hfilled⟩ := ih
    obtain ⟨term, -, hmatch, -⟩ := id hlongest
    rw [List.map_cons]
    refine ⟨hrespects.cons (fun _ _ => .inl rfl) (fun _ => ?_) nofun, ?_, ?_⟩
    · simpa [Run.toSegment, htext] using hlongest
    · simp [Run.toSegment, htext]
    · rw [List.forall_mem_cons]
      exact ⟨by simpa [Run.toSegment] using hmatch.stretch_ne_nil, hfilled⟩
  | @plain chars rest rs hne hsilent hnext hrest ih =>
    obtain ⟨hrespects, htext, hfilled⟩ := ih
    rw [List.map_cons]
    refine ⟨hrespects.cons ?_ nofun (fun _ => ?_), ?_, ?_⟩
    · intro t ht
      rw [List.head?_map, Option.mem_def, Option.map_eq_some_iff] at ht
      obtain ⟨r, hr, rfl⟩ := ht
      exact .inr (hnext r hr)
    · simpa [Run.toSegment, htext] using hsilent
    · simp [Run.toSegment, htext]
    · rw [List.forall_mem_cons]
      exact ⟨by simpa [Run.toSegment] using hne, hfilled⟩

/-- The segments of a text are its only leftmost-longest segmentation. -/
theorem leftmostLongest_iff (terms : Terms) (text : String) (segs : List Segment) :
    LeftmostLongest terms.toLists text segs ↔ segs = segments terms text := by
  by_cases hempty : text = ""
  · subst hempty
    constructor
    · intro h
      simpa [segments] using h.filled
    · rintro rfl
      have hrespects : RespectsMatches terms.toLists [⟨"", false⟩] := by
        refine RespectsMatches.nil.cons nofun (by simp) ?_
        intro _ later hlater hne
        exact absurd (List.suffix_nil.1 hlater) hne
      exact { hrespects with joined := rfl, filled := by simp [segments] }
  · have hsegments : segments terms text = (runs terms.toLists text.toList).map Run.toSegment := by
      simp [segments, hempty]
    rw [hsegments]
    constructor
    · intro h
      have hsegmented := h.segmented (by simpa [hempty] using h.filled)
      rw [h.joined] at hsegmented
      rw [← hsegmented.eq_runs, List.map_map]
      simp [Function.comp_def]
    · rintro rfl
      obtain ⟨hrespects, htext, hfilled⟩ := (segmented_runs terms.toLists text.toList).respectsMatches
      exact { hrespects with joined := htext, filled := by simpa [hempty] using hfilled }

end NoteSearch.Highlight
