-- SUMMARY: Marking a tree twice marks nothing more, and it touches only the texts that match.
import NoteSearch.Highlight.Node
import NoteSearch.Proofs.Highlight.Segmentation

/-!
# Marked trees

Marking cuts a text into segments, and no term matches inside a plain segment, also not one that
the cut would have made. So a second pass finds nothing to mark. What a pass changes are only texts
directly below searched elements, each in its place, and it changes the tree exactly if a term
matches somewhere in such a text.
-/

namespace NoteSearch.Highlight

variable {terms : Terms}

/-! ## Texts without a match -/

section texts

variable {text : String}

/-- A term matches at some character of a text. -/
def HasMatch (terms : Terms) (text : String) : Prop :=
  ∃ later, later <:+ text.toList ∧ ∃ term ∈ terms.toLists, ∃ stretch, IsMatch term stretch later

theorem not_hasMatch_iff :
    ¬ HasMatch terms text ↔ ∀ later, later <:+ text.toList → IsSilent terms.toLists later := by
  simp only [HasMatch, IsSilent, not_exists, not_and]

/-- A text is one plain segment exactly if no term matches in it. -/
theorem segments_eq_plain_iff : segments terms text = [⟨text, false⟩] ↔ ¬ HasMatch terms text := by
  rw [eq_comm, ← leftmostLongest_iff, not_hasMatch_iff]
  constructor
  · intro h later hlater
    rcases eq_or_ne later [] with rfl | hne
    · exact fun _ _ _ hmatch => hmatch.stretch_ne_nil (List.prefix_nil.1 hmatch.starts)
    · simpa [textOf] using h.silent ⟨text, false⟩ [] List.suffix_rfl rfl later hlater hne
  · intro h
    have hrespects : RespectsMatches terms.toLists [⟨text, false⟩] := by
      refine RespectsMatches.nil.cons nofun (by simp) ?_
      intro _ later hlater _
      simpa [textOf] using h later hlater
    refine { hrespects with joined := by simp [textOf], filled := ?_ }
    split
    · simp [*]
    · simpa using ‹¬ text = ""›

/-- Cutting a text makes no match: a plain segment has none by itself. -/
theorem segments_plain {s : Segment} (hs : s ∈ segments terms text) (hplain : s.marked = false) :
    segments terms s.text = [s] := by
  have h := (leftmostLongest_iff terms text _).2 rfl
  obtain ⟨before, after, hsplit⟩ := List.append_of_mem hs
  have hsuffix : s :: after <:+ segments terms text := ⟨before, hsplit.symm⟩
  have hself : s = ⟨s.text, false⟩ := by rw [← hplain]
  rw [hself, segments_eq_plain_iff]
  rintro ⟨later, hlater, term, hterm, stretch, hmatch⟩
  have hne : later ≠ [] := by
    rintro rfl
    exact hmatch.stretch_ne_nil (List.prefix_nil.1 hmatch.starts)
  exact h.silent s after hsuffix hplain later hlater hne term hterm stretch (hmatch.append _)

/-- A first segment that has the whole text leaves nothing for others. -/
theorem segments_eq_of_head {s : Segment} {others : List Segment}
    (h : segments terms text = s :: others) (hs : s.text = text) : others = [] := by
  have hcut := (leftmostLongest_iff terms text _).2 h.symm
  have hfilled := hcut.filled
  split at hfilled
  · exact (List.cons.inj hfilled).2
  · have hothers : textOf others = [] := by
      have hjoined := hcut.joined
      rwa [textOf_cons, hs, List.append_right_eq_self] at hjoined
    cases others with
    | nil => rfl
    | cons t rest =>
      have hne : t.text ≠ "" := hfilled t (by simp)
      simp [hne] at hothers

theorem textOf_segments (terms : Terms) (text : String) :
    textOf (segments terms text) = text.toList :=
  ((leftmostLongest_iff terms text _).2 rfl).joined

theorem segments_ne_nil (terms : Terms) (text : String) : segments terms text ≠ [] := by
  intro hnil
  have hcut := (leftmostLongest_iff terms text _).2 hnil.symm
  have hfilled := hcut.filled
  split at hfilled
  · cases hfilled
  · rename_i hne
    exact hne (String.toList_eq_nil_iff.1 hcut.joined.symm)

end texts

namespace Node

/-! ## Induction over trees -/

/-- What holds of the children of all elements holds of every list of trees. -/
@[elab_as_elim]
theorem list_induction {P : List Node → Prop} (nil : P [])
    (text : ∀ content rest, P rest → P (.text content :: rest))
    (element : ∀ kind children rest, P children → P rest → P (.element kind children :: rest))
    (nodes : List Node) : P nodes :=
  @Node.rec_1 (fun node => ∀ rest, P rest → P (node :: rest)) P text
    (fun kind children hchildren rest hrest => element kind children rest hchildren hrest)
    nil (fun _ rest hnode hrest => hnode rest hrest) nodes

variable {searched : Bool} {content : String} {kind : Element} {node : Node}
  {children rest nodes others : List Node}

/-! ## Equations -/

theorem mark_element (terms : Terms) (kind : Element) (children : List Node) :
    mark terms (element kind children) =
      element kind (markList terms kind.isSearched children) := by
  rw [mark]

@[simp] theorem markList_nil : markList terms searched [] = [] := by
  rw [markList]

theorem markList_text (terms : Terms) (searched : Bool) (content : String) (rest : List Node) :
    markList terms searched (text content :: rest) =
      (if searched then (segments terms content).map ofSegment else [text content]) ++
        markList terms searched rest := by
  rw [markList]

theorem markList_element (terms : Terms) (searched : Bool) (kind : Element)
    (children rest : List Node) :
    markList terms searched (element kind children :: rest) =
      element kind (markList terms kind.isSearched children) :: markList terms searched rest := by
  rw [markList, mark_element]

theorem markList_append (terms : Terms) (searched : Bool) (nodes others : List Node) :
    markList terms searched (nodes ++ others) =
      markList terms searched nodes ++ markList terms searched others := by
  induction nodes using list_induction with
  | nil => simp
  | text content rest ih => simp only [List.cons_append, markList_text, ih, List.append_assoc]
  | element kind children rest _ ih => simp only [List.cons_append, markList_element, ih]

theorem plainTextList_append (nodes others : List Node) :
    plainTextList (nodes ++ others) = plainTextList nodes ++ plainTextList others := by
  induction nodes with
  | nil => simp [plainTextList]
  | cons node rest ih => simp [plainTextList, ih, String.append_assoc]

theorem plainText_ofSegment (s : Segment) : (ofSegment s).plainText = s.text := by
  unfold ofSegment
  split <;> simp [plainText, plainTextList]

theorem plainTextList_map_ofSegment (segs : List Segment) :
    (plainTextList (segs.map ofSegment)).toList = textOf segs := by
  induction segs with
  | nil => simp [plainTextList, textOf]
  | cons s segs ih => simp [plainTextList, plainText_ofSegment, ih]

theorem plainTextList_segments (terms : Terms) (content : String) :
    plainTextList ((segments terms content).map ofSegment) = content := by
  rw [← String.toList_inj, plainTextList_map_ofSegment, textOf_segments]

/-! ## What stays -/

theorem plainTextList_markList (terms : Terms) (searched : Bool) (nodes : List Node) :
    plainTextList (markList terms searched nodes) = plainTextList nodes := by
  induction nodes using list_induction generalizing searched with
  | nil => simp
  | text content rest ih =>
    rw [markList_text, plainTextList_append, ih]
    cases searched with
    | false => simp [plainTextList, plainText]
    | true => simp [plainTextList, plainText, plainTextList_segments]
  | element kind children rest ihc ih =>
    simp only [markList_element, plainTextList, plainText, ihc, ih]

/-- The segments of a text stay as they are when they are marked again. -/
theorem markList_segments (terms : Terms) (searched : Bool) (content : String) :
    markList terms searched ((segments terms content).map ofSegment) =
      (segments terms content).map ofSegment := by
  have hsegs (segs : List Segment) (hsub : segs ⊆ segments terms content) :
      markList terms searched (segs.map ofSegment) = segs.map ofSegment := by
    induction segs with
    | nil => simp
    | cons s segs ih =>
      rw [List.cons_subset] at hsub
      rw [List.map_cons]
      cases hs : s.marked with
      | true =>
        -- The text of a mark is not searched.
        have hmark : ofSegment s = element .mark [text s.text] := by simp [ofSegment, hs]
        rw [hmark, markList_element, markList_text, markList_nil, ih hsub.2]
        rfl
      | false =>
        have htext : ofSegment s = text s.text := by simp [ofSegment, hs]
        rw [htext, markList_text, segments_plain hsub.1 hs, ih hsub.2]
        cases searched <;> simp [htext]
  exact hsegs _ (List.Subset.refl _)

theorem markList_markList (terms : Terms) (searched : Bool) (nodes : List Node) :
    markList terms searched (markList terms searched nodes) = markList terms searched nodes := by
  induction nodes using list_induction generalizing searched with
  | nil => simp
  | text content rest ih =>
    rw [markList_text, markList_append, ih]
    cases searched with
    | false => simp [markList_text]
    | true => simp only [↓reduceIte, markList_segments]
  | element kind children rest ihc ih => simp only [markList_element, ihc, ih]

/-! ## What changes -/

/-- A piece of a marked text: plain, or in a mark. -/
def IsPiece (node : Node) : Prop :=
  ∃ content, node = text content ∨ node = element .mark [text content]

mutual
/-- Two trees that differ only in texts directly below searched elements, which have become runs of
pieces. -/
inductive Rewritten : Node → Node → Prop where
  | text (content : String) : Rewritten (.text content) (.text content)
  | element (kind : Element) {children children' : List Node}
      (h : RewrittenList kind.isSearched children children') :
      Rewritten (.element kind children) (.element kind children')

/-- Lists of trees of that kind below the same element, whose own texts may have become runs of
pieces if it is searched. -/
inductive RewrittenList : Bool → List Node → List Node → Prop where
  | nil (searched : Bool) : RewrittenList searched [] []
  | keep {searched : Bool} {node node' : Node} {rest rest' : List Node}
      (hnode : Rewritten node node') (hrest : RewrittenList searched rest rest') :
      RewrittenList searched (node :: rest) (node' :: rest')
  | cut {content : String} {pieces rest rest' : List Node} (hpieces : ∀ p ∈ pieces, IsPiece p)
      (hcontent : plainTextList pieces = content) (hrest : RewrittenList true rest rest') :
      RewrittenList true (.text content :: rest) (pieces ++ rest')
end

theorem isPiece_ofSegment (s : Segment) : IsPiece (ofSegment s) := by
  refine ⟨s.text, ?_⟩
  unfold ofSegment
  split
  · exact .inr rfl
  · exact .inl rfl

theorem rewrittenList_markList (terms : Terms) (searched : Bool) (nodes : List Node) :
    RewrittenList searched nodes (markList terms searched nodes) := by
  induction nodes using list_induction generalizing searched with
  | nil =>
    rw [markList_nil]
    exact .nil searched
  | text content rest ih =>
    rw [markList_text]
    cases searched with
    | false => exact .keep (.text content) (ih false)
    | true =>
      refine .cut ?_ (plainTextList_segments terms content) (ih true)
      intro p hp
      obtain ⟨s, -, rfl⟩ := List.mem_map.1 hp
      exact isPiece_ofSegment s
  | element kind children rest ihc ih =>
    rw [markList_element]
    exact .keep (.element kind (ihc _)) (ih searched)

/-- A text that stands directly below a searched element somewhere in a tree. -/
inductive HasSearchedText (content : String) : Node → Prop where
  | here {kind : Element} {children : List Node} (hkind : kind.isSearched = true)
      (htext : .text content ∈ children) : HasSearchedText content (.element kind children)
  | deeper {kind : Element} {children : List Node} {child : Node} (hchild : child ∈ children)
      (htext : HasSearchedText content child) : HasSearchedText content (.element kind children)

theorem ofSegment_eq_text_iff {s : Segment} : ofSegment s = text content ↔ s = ⟨content, false⟩ := by
  obtain ⟨t, marked⟩ := s
  cases marked <;> simp [ofSegment]

theorem map_segments_eq_text_iff (terms : Terms) (content : String) (rest marked : List Node) :
    (segments terms content).map ofSegment ++ marked = text content :: rest ↔
      ¬ HasMatch terms content ∧ marked = rest := by
  rw [← segments_eq_plain_iff]
  constructor
  · intro h
    cases hsegs : segments terms content with
    | nil => exact absurd hsegs (segments_ne_nil terms content)
    | cons s others =>
      rw [hsegs, List.map_cons, List.cons_append, List.cons_eq_cons] at h
      obtain ⟨hs, hrest⟩ := h
      obtain rfl : s = ⟨content, false⟩ := ofSegment_eq_text_iff.1 hs
      obtain rfl := segments_eq_of_head hsegs rfl
      exact ⟨rfl, by simpa using hrest⟩
  · rintro ⟨hsegs, rfl⟩
    simp [hsegs, ofSegment]

theorem not_hasSearchedText_text {other : String} : ¬ HasSearchedText content (text other) :=
  nofun

theorem hasSearchedText_element_iff : HasSearchedText content (element kind children) ↔
    (kind.isSearched = true ∧ text content ∈ children) ∨
      ∃ child ∈ children, HasSearchedText content child := by
  constructor
  · rintro (⟨hkind, htext⟩ | ⟨hchild, htext⟩)
    · exact .inl ⟨hkind, htext⟩
    · exact .inr ⟨_, hchild, htext⟩
  · rintro (⟨hkind, htext⟩ | ⟨child, hchild, htext⟩)
    · exact .here hkind htext
    · exact .deeper hchild htext

theorem markList_eq_self_iff (terms : Terms) (searched : Bool) (nodes : List Node) :
    markList terms searched nodes = nodes ↔ ∀ content,
      (searched = true ∧ text content ∈ nodes) ∨ (∃ node ∈ nodes, HasSearchedText content node) →
        ¬ HasMatch terms content := by
  induction nodes using list_induction generalizing searched with
  | nil => simp
  | text content rest ih =>
    rw [markList_text]
    cases searched with
    | false => simpa [not_hasSearchedText_text] using ih false
    | true =>
      simp only [↓reduceIte, map_segments_eq_text_iff, ih, true_and, List.exists_mem_cons_iff,
        not_hasSearchedText_text, false_or]
      simp only [List.mem_cons, text.injEq, or_assoc]
      constructor
      · rintro ⟨hfirst, hrest⟩ other (rfl | hother)
        · exact hfirst
        · exact hrest other hother
      · intro h
        exact ⟨h content (.inl rfl), fun other hother => h other (.inr hother)⟩
  | element kind children rest ihc ih =>
    rw [markList_element, List.cons_eq_cons, element.injEq, ihc, ih]
    simp only [true_and, List.exists_mem_cons_iff, hasSearchedText_element_iff]
    simp only [List.mem_cons, reduceCtorEq, false_or]
    constructor
    · rintro ⟨hfirst, hrest⟩ content (h | h | h)
      · exact hrest content (.inl h)
      · exact hfirst content h
      · exact hrest content (.inr h)
    · intro h
      refine ⟨fun content hcontent => h content (.inr (.inl hcontent)), ?_⟩
      rintro content (hcontent | hcontent)
      · exact h content (.inl hcontent)
      · exact h content (.inr (.inr hcontent))

/-! ## Whole trees -/

theorem mark_eq_self_iff (terms : Terms) (node : Node) :
    mark terms node = node ↔ ∀ content, HasSearchedText content node → ¬ HasMatch terms content := by
  cases node with
  | text content => simp [mark, not_hasSearchedText_text]
  | element kind children =>
    simp only [mark_element, element.injEq, true_and, markList_eq_self_iff,
      hasSearchedText_element_iff]

/-- Without terms nothing is marked anyway. -/
theorem highlight_eq_mark (terms : Terms) (node : Node) : highlight terms node = mark terms node := by
  unfold highlight
  split
  · rename_i hempty
    have hnone : terms.toLists = [] := by
      simpa [Terms.toLists, Terms.isEmpty] using hempty
    refine ((mark_eq_self_iff terms node).2 ?_).symm
    rintro content - ⟨later, -, term, hterm, -⟩
    simp [hnone] at hterm
  · rfl

/-- Marking a tree twice is marking it once, and its text stays as it is. The marked tree differs
only in texts directly below searched elements, which have become runs of pieces with the same
text, and it does differ exactly if a term matches somewhere in such a text. -/
theorem highlight_marks_matches (terms : Terms) (node : Node) :
    highlight terms (highlight terms node) = highlight terms node ∧
    (highlight terms node).plainText = node.plainText ∧
    Rewritten node (highlight terms node) ∧
    (highlight terms node ≠ node ↔
      ∃ content, HasSearchedText content node ∧ HasMatch terms content) := by
  simp only [highlight_eq_mark]
  refine ⟨?_, ?_, ?_, ?_⟩
  · cases node with
    | text content => simp [mark]
    | element kind children => simp only [mark_element, markList_markList]
  · cases node with
    | text content => simp [mark]
    | element kind children => simp only [mark_element, plainText, plainTextList_markList]
  · cases node with
    | text content =>
      rw [mark]
      exact .text content
    | element kind children =>
      rw [mark_element]
      exact .element kind (rewrittenList_markList terms kind.isSearched children)
  · simp only [ne_eq, mark_eq_self_iff, not_forall, not_not, exists_prop]

end Node

end NoteSearch.Highlight
