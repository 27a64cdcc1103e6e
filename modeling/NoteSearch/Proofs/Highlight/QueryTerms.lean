-- SUMMARY: Which terms a query has, in which order, and what a query of two parts has.
import NoteSearch.Highlight.Terms
import NoteSearch.Proofs.Text.Words

/-!
# Terms of a query

`StandsFor` says what term a word of a query stands for, with the operators and connectives written
out. The terms of a query are what its words stand for: each once, and in the order in which words
first stand for them. A blank in a query cuts its terms in two.
-/

namespace NoteSearch.Highlight.Terms

/-! ## Lists without repetition -/

section eraseDups

variable {α : Type} [BEq α] [LawfulBEq α]

theorem eraseDups_filter (p : α → Bool) (l : List α) :
    (l.filter p).eraseDups = l.eraseDups.filter p := by
  match l with
  | [] => rfl
  | a :: as =>
    have ih := eraseDups_filter p (as.filter fun b => !b == a)
    rw [List.eraseDups_cons, List.filter_cons, List.filter_cons]
    split
    · rw [List.eraseDups_cons, ← ih, List.filter_filter, List.filter_filter]
      simp only [Bool.and_comm]
    · rename_i ha
      rw [← ih, List.filter_filter]
      refine congrArg _ (List.filter_congr fun b hb => ?_)
      by_cases hba : b = a
      · simp [hba, ha]
      · simp [hba]
  termination_by l.length
  decreasing_by exact Nat.lt_succ_of_le (List.length_filter_le ..)

/-- What is new in `m` comes behind what `l` has. -/
theorem eraseDups_append_eq (l m : List α) :
    (l ++ m).eraseDups = l.eraseDups ++ m.eraseDups.filter fun a => !l.eraseDups.contains a := by
  rw [List.eraseDups_append, List.removeAll, eraseDups_filter]
  congr 2
  funext a
  rw [List.elem_eq_contains]
  simp only [List.contains_eq_mem, List.mem_eraseDups]

/-- The elements come in the order of their first occurrences: whatever comes before an element
occurs before each of its occurrences. -/
theorem pairwise_eraseDups (l : List α) :
    l.eraseDups.Pairwise fun a b => ∀ earlier later, l = earlier ++ b :: later → a ∈ earlier := by
  match l with
  | [] => exact .nil
  | a :: as =>
    have ih := pairwise_eraseDups (as.filter fun b => !b == a)
    -- An element other than `a` is not the first one.
    have htail {b : α} (hb : b ∈ (as.filter fun b => !b == a).eraseDups) {earlier later : List α}
        (hsplit : a :: as = earlier ++ b :: later) :
        ∃ rest, earlier = a :: rest ∧ as = rest ++ b :: later := by
      cases earlier with
      | nil =>
        cases hsplit
        simp at hb
      | cons c rest =>
        cases hsplit
        exact ⟨rest, rfl, rfl⟩
    rw [List.eraseDups_cons, List.pairwise_cons]
    refine ⟨?_, ih.imp_of_mem ?_⟩
    · intro b hb earlier later hsplit
      obtain ⟨rest, rfl, -⟩ := htail hb hsplit
      exact List.mem_cons_self
    · intro b c hb hc hbefore earlier later hsplit
      obtain ⟨rest, rfl, rfl⟩ := htail hc hsplit
      have hca : (!c == a) = true := (List.mem_filter.1 (List.mem_eraseDups.1 hc)).2
      have hb := hbefore (rest.filter fun b => !b == a) (later.filter fun b => !b == a)
        (by rw [List.filter_append, List.filter_cons, if_pos hca])
      exact List.mem_cons_of_mem _ (List.mem_filter.1 hb).1
  termination_by l.length
  decreasing_by exact Nat.lt_succ_of_le (List.length_filter_le ..)

theorem nodup_eraseDups (l : List α) : l.eraseDups.Nodup := by
  refine (pairwise_eraseDups l).imp_of_mem ?_
  rintro a b ha hb hbefore rfl
  obtain ⟨earlier, later, hsplit, hnew⟩ := List.eq_append_cons_of_mem (List.mem_eraseDups.1 hb)
  exact hnew (hbefore earlier later hsplit)

end eraseDups

/-! ## The term of a word -/

/-- A word of a query without the characters that group words, in lower case. -/
def plainWord (word : List Char) : List Char :=
  Text.lower (word.filter fun c => c ∉ ['"', '\'', '(', ')'])

/-- The term that a word of a query stands for. -/
structure StandsFor (word term : List Char) : Prop where
  /-- No word that begins with one of these operators is searched for. -/
  searched : ∀ op ∈ ["tag:", "-tag:", "created:", "updated:", "has:", "todo:"],
    ¬ op.toList <+: plainWord word
  /-- One operator for titles is dropped. -/
  body : plainWord word = "intitle:".toList ++ term ∨
    plainWord word = term ∧ ¬ "intitle:".toList <+: term
  long : 3 ≤ term.length
  notStop : ∀ stop ∈ ["and", "or", "not", "near"], term ≠ stop.toList
  notNear : ∀ digits, term = "near/".toList ++ digits →
    digits = [] ∨ ∃ d ∈ digits, ¬ ('0' ≤ d ∧ d ≤ '9')

variable {word term : List Char}

theorem filter_isGrouping (word : List Char) :
    Text.lower (word.filter fun c => !isGrouping c) = plainWord word := by
  refine congrArg Text.lower (List.filter_congr fun c _ => ?_)
  rw [Bool.eq_iff_iff]
  simp [isGrouping, and_assoc]

theorem isFacet_eq_false_iff {plain : List Char} :
    isFacet plain = false ↔
      ∀ op ∈ ["tag:", "-tag:", "created:", "updated:", "has:", "todo:"], ¬ op.toList <+: plain := by
  simp only [isFacet, facetOperators, List.any_map, List.any_eq_false, Function.comp_apply,
    List.isPrefixOf_iff_prefix]

theorem dropTitleOperator_eq_iff {plain : List Char} :
    dropTitleOperator plain = term ↔
      plain = "intitle:".toList ++ term ∨ plain = term ∧ ¬ "intitle:".toList <+: term := by
  unfold dropTitleOperator
  cases hbody : titleOperator.isPrefixOf? plain with
  | some body =>
    obtain rfl := List.isPrefixOf?_eq_some_iff_append_eq.1 hbody
    rw [Option.getD_some]
    constructor
    · rintro rfl
      exact .inl rfl
    · rintro (h | ⟨rfl, hnone⟩)
      · exact List.append_cancel_left h
      · exact absurd (List.prefix_append _ body) hnone
  | none =>
    have hnone : ¬ "intitle:".toList <+: plain := by
      rintro ⟨body, h⟩
      have hsome : titleOperator.isPrefixOf? plain = some body :=
        List.isPrefixOf?_eq_some_iff_append_eq.2 h
      rw [hbody] at hsome
      cases hsome
    rw [Option.getD_none]
    constructor
    · rintro rfl
      exact .inr ⟨rfl, hnone⟩
    · rintro (rfl | ⟨rfl, -⟩)
      · exact absurd (List.prefix_append _ term) hnone
      · rfl

theorem isProximity_eq_false_iff :
    isProximity term = false ↔ ∀ digits, term = "near/".toList ++ digits →
      digits = [] ∨ ∃ d ∈ digits, ¬ ('0' ≤ d ∧ d ≤ '9') := by
  unfold isProximity
  cases hdigits : proximityOperator.isPrefixOf? term with
  | some digits =>
    obtain rfl := List.isPrefixOf?_eq_some_iff_append_eq.1 hdigits
    have hall : (!digits.isEmpty && digits.all Char.isDigit) = false ↔
        digits = [] ∨ ∃ d ∈ digits, ¬ ('0' ≤ d ∧ d ≤ '9') := by
      simp [Char.isDigit, Char.le_def, imp_iff_not_or]
    refine hall.trans ⟨fun h other hother => ?_, fun h => h digits rfl⟩
    rwa [← List.append_cancel_left hother]
  | none =>
    refine ⟨fun _ digits h => ?_, fun _ => rfl⟩
    have hsome : proximityOperator.isPrefixOf? term = some digits :=
      List.isPrefixOf?_eq_some_iff_append_eq.2 h.symm
    rw [hdigits] at hsome
    cases hsome

theorem isConnective_eq_false_iff :
    isConnective term = false ↔
      (∀ stop ∈ ["and", "or", "not", "near"], term ≠ stop.toList) ∧
        ∀ digits, term = "near/".toList ++ digits →
          digits = [] ∨ ∃ d ∈ digits, ¬ ('0' ≤ d ∧ d ≤ '9') := by
  rw [isConnective, Bool.or_eq_false_iff, isProximity_eq_false_iff, List.contains_eq_mem,
    decide_eq_false_iff_not, stopWords, List.mem_map]
  refine and_congr_left fun _ => ⟨fun h stop hstop heq => h ⟨stop, hstop, heq.symm⟩, ?_⟩
  rintro h ⟨stop, hstop, heq⟩
  exact h stop hstop heq.symm

theorem ofWord?_eq_some_iff : ofWord? word = some term ↔ StandsFor word term := by
  unfold ofWord?
  rw [filter_isGrouping]
  have hkept (body : List Char) :
      (isFacet (plainWord word) || body.length < minLength || isConnective body) = false ↔
        isFacet (plainWord word) = false ∧ 3 ≤ body.length ∧ isConnective body = false := by
    rw [Bool.or_eq_false_iff, Bool.or_eq_false_iff, decide_eq_false_iff_not, Nat.not_lt, and_assoc]
    rfl
  constructor
  · intro h
    dsimp only at h
    split at h
    · cases h
    · rename_i hword
      obtain ⟨hfacet, hlong, hconnective⟩ := (hkept _).1 (Bool.eq_false_iff.2 hword)
      cases h
      obtain ⟨hstop, hnear⟩ := isConnective_eq_false_iff.1 hconnective
      exact ⟨isFacet_eq_false_iff.1 hfacet, dropTitleOperator_eq_iff.1 rfl, hlong, hstop, hnear⟩
  · intro h
    have hfacet := isFacet_eq_false_iff.2 h.searched
    have hconnective := isConnective_eq_false_iff.2 ⟨h.notStop, h.notNear⟩
    dsimp only
    rw [dropTitleOperator_eq_iff.2 h.body, (hkept term).2 ⟨hfacet, h.long, hconnective⟩]
    rfl

/-! ## The terms of a query -/

variable {query t u : List Char} {c : Char}

theorem mem_listOfQuery :
    term ∈ listOfQuery query ↔ ∃ n word, Text.IsWordAt query n word ∧ StandsFor word term := by
  simp only [listOfQuery, List.mem_eraseDups, List.mem_filterMap, ofWord?_eq_some_iff,
    Text.mem_words_iff]
  constructor
  · rintro ⟨word, ⟨n, hn⟩, hterm⟩
    exact ⟨n, word, hn, hterm⟩
  · rintro ⟨n, word, hn, hterm⟩
    exact ⟨word, ⟨n, hn⟩, hterm⟩

/-- A term that comes before another one is found first in the query. -/
theorem pairwise_listOfQuery (query : List Char) :
    (listOfQuery query).Pairwise fun a b => ∀ n word, Text.IsWordAt query n word →
      StandsFor word b → ∃ m < n, ∃ v, Text.IsWordAt query m v ∧ StandsFor v a := by
  refine (pairwise_eraseDups _).imp ?_
  intro a b hbefore n word hn hb
  obtain ⟨earlier, later, hwords, hearlier⟩ := hn.exists_words_eq
  have ha : a ∈ earlier.filterMap ofWord? := by
    apply hbefore _ (later.filterMap ofWord?)
    rw [hwords, List.filterMap_append, List.filterMap_cons_some (ofWord?_eq_some_iff.2 hb)]
  obtain ⟨v, hv, hva⟩ := List.mem_filterMap.1 ha
  obtain ⟨m, hm, hmv⟩ := hearlier v hv
  exact ⟨m, hm, v, hmv, ofWord?_eq_some_iff.1 hva⟩

/-- A blank cuts the terms of a query in two. -/
theorem listOfQuery_append_cons (hc : Text.isBlank c = true) (t u : List Char) :
    listOfQuery (t ++ c :: u) =
      listOfQuery t ++ (listOfQuery u).filter fun term => !(listOfQuery t).contains term := by
  rw [listOfQuery, Text.words_append_cons hc, List.filterMap_append]
  exact eraseDups_append_eq _ _

theorem words_ofQuery (query : String) :
    (ofQuery query).words = (listOfQuery query.toList).map String.ofList := rfl

theorem mem_words_ofQuery {query term : String} :
    term ∈ (ofQuery query).words ↔ term.toList ∈ listOfQuery query.toList := by
  rw [words_ofQuery, List.mem_map]
  constructor
  · rintro ⟨chars, hchars, rfl⟩
    rwa [String.toList_ofList]
  · intro h
    exact ⟨_, h, String.ofList_toList⟩

/-- The terms of a query are what its words stand for, each once and in the order of their first
occurrences. The terms of a query in front of a blank come first, and those behind it that are not
among them follow. -/
theorem terms_of_query (query : String) :
    (ofQuery query).words.Nodup ∧
    (∀ term, term ∈ (ofQuery query).words ↔
      ∃ n word, Text.IsWordAt query.toList n word ∧ StandsFor word term.toList) ∧
    (ofQuery query).words.Pairwise (fun a b => ∀ n word, Text.IsWordAt query.toList n word →
      StandsFor word b.toList →
        ∃ m < n, ∃ v, Text.IsWordAt query.toList m v ∧ StandsFor v a.toList) ∧
    ∀ left blank right, Text.isBlank blank = true →
      query = left ++ String.singleton blank ++ right →
      (ofQuery query).words = (ofQuery left).words ++
        (ofQuery right).words.filter fun term => term ∉ (ofQuery left).words := by
  refine ⟨?_, ?_, ?_, ?_⟩
  · rw [words_ofQuery]
    exact List.Pairwise.map _ (fun _ _ hne heq => hne (String.ofList_injective heq))
      (nodup_eraseDups _)
  · intro term
    rw [mem_words_ofQuery, mem_listOfQuery]
  · rw [words_ofQuery, List.pairwise_map]
    simpa only [String.toList_ofList] using pairwise_listOfQuery query.toList
  · rintro left blank right hblank rfl
    have hchars : (left ++ String.singleton blank ++ right).toList =
        left.toList ++ blank :: right.toList := by simp
    have hnew (term : List Char) : (!(listOfQuery left.toList).contains term) =
        decide (String.ofList term ∉ (ofQuery left).words) := by
      simp [mem_words_ofQuery]
    rw [words_ofQuery, hchars, listOfQuery_append_cons hblank, List.map_append,
      words_ofQuery right, List.filter_map]
    exact congrArg _ (congrArg _ (List.filter_congr fun term _ => hnew term))

/-- Quotes hide neither an operator nor a connective, and a term of the first part is not repeated
behind the blank, which is ideographic. -/
theorem terms_of_quoted_query :
    let left := "intitle:\"NEAR\" ta'g:work intitle:(Meeting)"
    let right := "MEETING near/5x"
    Text.isBlank '\u3000' = true ∧
      (ofQuery left).words = ["meeting"] ∧ (ofQuery right).words = ["meeting", "near/5x"] ∧
      (ofQuery (left ++ String.singleton '\u3000' ++ right)).words = ["meeting", "near/5x"] := by
  intro left right
  have hblank : Text.isBlank '\u3000' = true := by decide
  have hleft : (ofQuery left).words = ["meeting"] := by decide +kernel
  have hright : (ofQuery right).words = ["meeting", "near/5x"] := by decide +kernel
  obtain ⟨-, -, -, hcut⟩ := terms_of_query (left ++ String.singleton '\u3000' ++ right)
  refine ⟨hblank, hleft, hright, ?_⟩
  rw [hcut left '\u3000' right hblank rfl, hleft, hright]
  decide

end NoteSearch.Highlight.Terms
