-- SUMMARY: A text that is the typed word itself is marked as a whole, unless the word has a final sigma.
import NoteSearch.Proofs.Highlight.Marking
import NoteSearch.Proofs.Text.FinalSigma

/-!
# Marking a word as it was typed

A query is lower-cased word by word, and a text character by character. The term that a word stands
for is as long as the lower-case forms of its characters together, so in the word itself the term
can only match from the first character to the last. There it does match, in every script and in
every mixture of cases, unless a sigma ends the word: the term has its final form, which the
characters do not take.
-/

namespace NoteSearch.Highlight

variable {term stretch later text : List Char}

/-- A term that is as long as a text in lower case can only match the text as a whole. -/
theorem IsMatch.stretch_eq (h : IsMatch term stretch later) (hlater : later <:+ text)
    (hlength : term.length = (Text.lowerEach text).length) : stretch = text := by
  obtain ⟨front, rfl⟩ := hlater
  obtain ⟨back, rfl⟩ := h.starts
  rw [← h.spells] at hlength
  simp only [Text.lowerEach_append, List.length_append] at hlength
  have hfront : front = [] := by
    rw [← Text.lowerEach_eq_nil_iff, ← List.length_eq_zero_iff]
    omega
  have hback : back = [] := by
    rw [← Text.lowerEach_eq_nil_iff, ← List.length_eq_zero_iff]
    omega
  rw [hfront, hback, List.nil_append, List.append_nil]

section segments

variable {terms : Terms} {text : String} {term : List Char} (hterms : terms.toLists = [term])
include hterms

/-- A term that is the text in lower case marks it as a whole. -/
theorem segments_eq_marked (hne : text ≠ "") (hterm : term = Text.lowerEach text.toList) :
    segments terms text = [⟨text, true⟩] := by
  have hchars : text.toList ≠ [] := mt String.toList_eq_nil_iff.1 hne
  have hmatch : IsMatch term text.toList text.toList :=
    ⟨fun hnil => hchars (Text.lowerEach_eq_nil_iff.1 (hterm ▸ hnil)), List.prefix_rfl, hterm.symm⟩
  have hlongest : IsLongest terms.toLists text.toList text.toList := by
    refine ⟨term, by simp [hterms], hmatch, fun other hother _ _ => .inl ?_⟩
    rwa [hterms, List.mem_singleton] at hother
  have hruns : runs terms.toLists text.toList = [⟨text.toList, true⟩] := by
    rw [runs_of_longest hlongest.longestMatch?, List.take_length, List.drop_length, runs_nil]
  simp [segments, hruns, hne, Run.toSegment]

/-- A term of the same length that is not the text in lower case marks nothing in it. -/
theorem segments_eq_plain (hlength : term.length = (Text.lowerEach text.toList).length)
    (hterm : term ≠ Text.lowerEach text.toList) : segments terms text = [⟨text, false⟩] := by
  rw [segments_eq_plain_iff]
  rintro ⟨later, hlater, other, hother, stretch, hmatch⟩
  rw [hterms, List.mem_singleton] at hother
  subst hother
  have hwhole : stretch = text.toList := hmatch.stretch_eq hlater hlength
  exact hterm (hwhole ▸ hmatch.spells.symm)

end segments

/-- A word that its query keeps whole as the only term, so a word without blanks and grouping
characters. As a text it is marked as a whole exactly if no sigma ends it; otherwise nothing in it
is marked. -/
theorem typed_word_marked_iff (word : String)
    (hword : (Terms.ofQuery word).words = [String.ofList (Text.lower word.toList)]) :
    (segments (.ofQuery word) word = [⟨word, true⟩] ↔ ¬ Text.HasFinalSigma word.toList) ∧
    (Text.HasFinalSigma word.toList → segments (.ofQuery word) word = [⟨word, false⟩]) := by
  have hterms : (Terms.ofQuery word).toLists = [Text.lower word.toList] := by
    rw [Terms.toLists, hword, List.map_singleton, String.toList_ofList]
  have hne : word ≠ "" := by
    rintro rfl
    cases hword
  have hplain (hsigma : Text.HasFinalSigma word.toList) :
      segments (.ofQuery word) word = [⟨word, false⟩] := by
    refine segments_eq_plain hterms (Text.length_lower _) ?_
    rwa [ne_eq, Text.lower_eq_lowerEach_iff, not_not]
  refine ⟨⟨fun hmarked hsigma => ?_, fun hnone => ?_⟩, hplain⟩
  · rw [hplain hsigma] at hmarked
    cases hmarked
  · exact segments_eq_marked hterms hne ((Text.lower_eq_lowerEach_iff _).2 hnone)

/-- The dotted capital I has a lower-case form of two characters, and neither sigma ends the
word. -/
theorem typed_word_with_inner_sigmas :
    let word := "İΣΤΑΝΣΥΛ"
    (Terms.ofQuery word).words = [String.ofList (Text.lower word.toList)] ∧
      ¬ Text.HasFinalSigma word.toList ∧ segments (.ofQuery word) word = [⟨word, true⟩] := by
  intro word
  have hword : (Terms.ofQuery word).words = [String.ofList (Text.lower word.toList)] := by
    decide +kernel
  have hnone : ¬ Text.HasFinalSigma word.toList :=
    (Text.lower_eq_lowerEach_iff _).1 (by decide +kernel)
  exact ⟨hword, hnone, (typed_word_marked_iff word hword).1.2 hnone⟩

/-- The typed word ends with a sigma, and the same word in a text is not marked. -/
theorem word_with_final_sigma_not_marked :
    let word := "ΟΔΟΣ"
    (∀ c ∈ word.toList, Text.isBlank c = false ∧ Terms.isGrouping c = false) ∧
      (Terms.ofQuery word).words = [String.ofList (Text.lower word.toList)] ∧
      (Terms.ofQuery word).words = ["οδος"] ∧ Text.lowerEach word.toList = "οδοσ".toList ∧
      segments (.ofQuery word) word = [⟨word, false⟩] ∧
      segments (.ofQuery word) word ≠ [⟨word, true⟩] := by
  intro word
  have hterms : (Terms.ofQuery word).toLists = ["οδος".toList] := by decide +kernel
  have hplain : segments (.ofQuery word) word = [⟨word, false⟩] :=
    segments_eq_plain hterms (by decide +kernel) (by decide +kernel)
  have hclean : word.toList.all (fun c => !Text.isBlank c && !Terms.isGrouping c) = true := by
    decide +kernel
  refine ⟨fun c hc => by simpa using List.all_eq_true.1 hclean c hc, by decide +kernel,
    by decide +kernel, by decide +kernel, hplain, ?_⟩
  simp [hplain]

end NoteSearch.Highlight
