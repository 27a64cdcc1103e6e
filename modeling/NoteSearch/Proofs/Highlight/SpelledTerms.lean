-- SUMMARY: A match ends where whole characters have spelled the term, and it tells the terms apart.
import NoteSearch.Proofs.Highlight.Scanning

/-!
# Terms spelled by whole characters

A match is found letter by letter: the letters of one character after another are taken off the
term, and only behind the last letter of a character is it asked whether the term is used up. So a
match ends between two characters, behind the only stretch that spells the term. What follows the
stretch is never read, and of two terms that match at one place the shorter one begins the longer.
-/

namespace NoteSearch.Highlight

variable {text term other : String} {chars wanted : List Char} {j k : Nat}

/-! ## Letter by letter -/

theorem takeLetters?_eq (letters wanted : List Char) :
    takeLetters? letters wanted = letters.isPrefixOf? wanted := by
  induction letters generalizing wanted with
  | nil => rfl
  | cons l ls ih =>
    cases wanted with
    | nil => rfl
    | cons w ws => simp only [takeLetters?, List.isPrefixOf?, ih, beq_iff_eq, @eq_comm _ w l]

/-- Asking behind every character is the same as asking before the next one, if there is something
wanted at first. -/
theorem spellFrom?_eq (pos : Nat) (chars : List Char) (hne : wanted ≠ []) :
    spellFrom? pos chars wanted = (spelledBytes? chars wanted).map (pos + ·) := by
  obtain ⟨w, ws, rfl⟩ := List.exists_cons_of_ne_nil hne
  induction chars generalizing pos w ws with
  | nil => rfl
  | cons c cs ih =>
    rw [spellFrom?, spelledBytes?, takeLetters?_eq]
    cases (Text.lowerChar c).isPrefixOf? (w :: ws) with
    | none => rfl
    | some left =>
      cases left with
      | nil => simp [spelledBytes?]
      | cons l ls =>
        simp only [ih (pos + c.utf8Size) l ls (List.cons_ne_nil l ls), Option.map_map]
        congr 1
        funext n
        exact Nat.add_assoc pos c.utf8Size n

theorem matchOffset?_eq (text term : String) :
    matchOffset? text term = matchBytes? text.toList term.toList := by
  unfold matchOffset? matchBytes?
  split
  · rfl
  · rename_i hne
    rw [spellFrom?_eq 0 _ (by simpa using hne)]
    simp

/-! ## Stretches and their ends -/

theorem matchOffset?_eq_some_iff : matchOffset? text term = some k ↔
    ∃ stretch, IsMatch term.toList stretch text.toList ∧ String.utf8Len stretch = k := by
  rw [matchOffset?_eq, matchBytes?_eq, Option.map_eq_some_iff]
  constructor
  · rintro ⟨n, hn, hk⟩
    exact ⟨_, (matchLength?_eq_some_iff.1 hn).2, hk⟩
  · rintro ⟨stretch, hmatch, hk⟩
    exact ⟨_, hmatch.matchLength?, by rw [hmatch.take_length, hk]⟩

/-- The first `k` bytes of a text are whole characters, at least one, and in lower case they are the
term. -/
structure Spells (text : String) (k : Nat) (term : String) : Prop where
  pos : 0 < k
  boundary : String.Pos.Raw.IsValid text ⟨k⟩
  spelled : ∃ first, slice? text 0 k = some first ∧ Text.lowerEach first.toList = term.toList

theorem IsMatch.spells_utf8Len {stretch : List Char}
    (h : IsMatch term.toList stretch text.toList) : Spells text (String.utf8Len stretch) term := by
  obtain ⟨rest, hrest⟩ := h.starts
  have hsplit : text.toList = [] ++ (stretch ++ rest) := hrest.symm
  refine ⟨?_, isValid_utf8Len hrest.symm, String.ofList stretch, slice?_of_append hsplit, ?_⟩
  · simpa [Nat.pos_iff_ne_zero] using h.stretch_ne_nil
  · rw [String.toList_ofList, h.spells]

/-- An offset between characters is the end of a first part of the text, and the slice up to it is
this part. -/
theorem exists_prefix_of_isValid (h : String.Pos.Raw.IsValid text ⟨k⟩) :
    ∃ first rest, text.toList = first ++ rest ∧ String.utf8Len first = k ∧
      slice? text 0 k = some (String.ofList first) := by
  obtain ⟨first, rest, rfl, hk⟩ := String.Pos.Raw.isValid_iff_exists_append.1 h
  have hlength : String.utf8Len first.toList = k := by
    rw [utf8Len_toList]
    exact (congrArg String.Pos.Raw.byteIdx hk).symm
  have hsplit : (first ++ rest).toList = [] ++ (first.toList ++ rest.toList) := by simp
  have hslice := slice?_of_append hsplit
  rw [List.nil_append, String.utf8Len_nil, hlength] at hslice
  exact ⟨first.toList, rest.toList, by simp, hlength, hslice⟩

theorem Spells.exists_isMatch (h : Spells text k term) :
    ∃ stretch, IsMatch term.toList stretch text.toList ∧ String.utf8Len stretch = k := by
  obtain ⟨first, rest, hsplit, hk, hslice⟩ := exists_prefix_of_isValid h.boundary
  obtain ⟨whole, hwhole, hlower⟩ := h.spelled
  rw [hslice, Option.some.injEq] at hwhole
  rw [← hwhole, String.toList_ofList] at hlower
  refine ⟨first, ⟨?_, ⟨rest, hsplit.symm⟩, hlower⟩, hk⟩
  intro hnil
  rw [hnil, Text.lowerEach_eq_nil_iff] at hlower
  rw [hlower, String.utf8Len_nil] at hk
  exact h.pos.ne hk

theorem matchOffset?_eq_some_iff_spells : matchOffset? text term = some k ↔ Spells text k term := by
  rw [matchOffset?_eq_some_iff]
  constructor
  · rintro ⟨stretch, hmatch, rfl⟩
    exact hmatch.spells_utf8Len
  · exact Spells.exists_isMatch

/-! ## Terms that end inside a character -/

/-- If the lower-case form of a first part of a text goes past `letters` inside of a character, then
no first part of the text has the form that ends there. -/
theorem lowerEach_ne_of_torn {before after stretch letters more : List Char} {c : Char}
    (hletters : Text.lowerChar c = letters ++ more) (hne : letters ≠ []) (hmore : more ≠ [])
    (hstretch : stretch <+: before ++ c :: after) :
    Text.lowerEach stretch ≠ Text.lowerEach before ++ letters := by
  intro hlower
  have hbefore : before <+: before ++ c :: after := List.prefix_append _ _
  rcases List.prefix_or_prefix_of_prefix hstretch hbefore with ⟨rest, rfl⟩ | ⟨rest, rfl⟩
  · -- the stretch is too short
    rw [Text.lowerEach_append, List.append_assoc, List.self_eq_append_right] at hlower
    exact hne (List.append_eq_nil_iff.1 hlower).2
  · rw [List.prefix_append_right_inj] at hstretch
    rw [Text.lowerEach_append, List.append_cancel_left_eq] at hlower
    cases rest with
    | nil => exact hne hlower.symm
    | cons d ds =>
      obtain rfl : d = c := (List.cons_prefix_cons.1 hstretch).1
      -- the stretch has the whole character
      rw [Text.lowerEach_cons, hletters, List.append_assoc, List.append_right_eq_self] at hlower
      exact hmore (List.append_eq_nil_iff.1 hlower).1

theorem matchOffset?_eq_none_of_torn {before after letters more : List Char} {c : Char}
    (htext : text.toList = before ++ c :: after) (hletters : Text.lowerChar c = letters ++ more)
    (hne : letters ≠ []) (hmore : more ≠ [])
    (hterm : term.toList = Text.lowerEach before ++ letters) : matchOffset? text term = none := by
  by_contra hsome
  obtain ⟨k, hk⟩ := Option.ne_none_iff_exists'.1 hsome
  obtain ⟨stretch, hmatch, -⟩ := matchOffset?_eq_some_iff.1 hk
  exact lowerEach_ne_of_torn hletters hne hmore (htext ▸ hmatch.starts) (hmatch.spells.trans hterm)

/-! ## Longer texts and other terms -/

theorem matchOffset?_append (h : matchOffset? text term = some k) (more : String) :
    matchOffset? (text ++ more) term = some k := by
  rw [matchOffset?_eq_some_iff] at h ⊢
  obtain ⟨stretch, hmatch, hk⟩ := h
  exact ⟨stretch, String.toList_append ▸ hmatch.append more.toList, hk⟩

theorem IsMatch.utf8Len_lt_of_starts {term other stretch longer rest : List Char}
    (h : IsMatch term stretch rest) (k : IsMatch other longer rest) (hstarts : stretch <+: longer)
    (hne : term ≠ other) : String.utf8Len term < String.utf8Len other := by
  obtain ⟨added, rfl⟩ := hstarts
  rw [← h.spells, ← k.spells, Text.lowerEach_append] at hne ⊢
  have hadded : Text.lowerEach added ≠ [] := by simpa using hne
  rw [String.utf8Len_append]
  exact Nat.lt_add_of_pos_right (Nat.pos_iff_ne_zero.2 (mt String.utf8Len_eq_zero.1 hadded))

/-- Of two terms that match at one place, the one whose match takes more bytes is the longer one. -/
theorem IsMatch.utf8Len_lt_iff {term other stretch longer rest : List Char}
    (h : IsMatch term stretch rest) (k : IsMatch other longer rest) (hne : term ≠ other) :
    String.utf8Len stretch ≠ String.utf8Len longer ∧
    (String.utf8Len stretch < String.utf8Len longer ↔ term.length < other.length) ∧
    (String.utf8Len stretch < String.utf8Len longer ↔
      String.utf8Len term < String.utf8Len other) := by
  have hstretch : stretch ≠ longer := by
    rintro rfl
    exact hne (h.spells.symm.trans k.spells)
  rcases List.prefix_or_prefix_of_prefix h.starts k.starts with hp | hp
  · have hbytes := h.utf8Len_lt_of_starts k hp hne
    have hless := h.lt_of_starts k hp hstretch
    omega
  · have hbytes := k.utf8Len_lt_of_starts h hp hne.symm
    have hmore := k.lt_of_starts h hp hstretch.symm
    omega

/-! ## Matches -/

/-- A term matches exactly up to the offset at which whole characters, at least one, have spelled it
in lower case, and there is at most one such offset; the marking of texts takes the characters before
it. A term that ends inside the lower-case form of a character does not match, and more text does not
change a match. Different terms that match at one place take different numbers of bytes, and the one
that takes more is the longer term, in characters and in bytes. -/
theorem terms_match_spelled_characters (text term : String) :
    (∀ k, matchOffset? text term = some k ↔ Spells text k term) ∧
    (∀ j k, Spells text j term → Spells text k term → j = k) ∧
    matchOffset? text term =
      ((matchLength? text.toList term.toList).map fun n => String.utf8Len (text.toList.take n)) ∧
    (∀ before c after letters more, text.toList = before ++ c :: after →
      Text.lowerChar c = letters ++ more → letters ≠ [] → more ≠ [] →
      term.toList = Text.lowerEach before ++ letters → matchOffset? text term = none) ∧
    (∀ k more, matchOffset? text term = some k → matchOffset? (text ++ more) term = some k) ∧
    ∀ other j k, term ≠ other → matchOffset? text term = some j →
      matchOffset? text other = some k →
      j ≠ k ∧ (j < k ↔ term.length < other.length) ∧
        (j < k ↔ term.utf8ByteSize < other.utf8ByteSize) := by
  have hspells (k : Nat) : matchOffset? text term = some k ↔ Spells text k term :=
    matchOffset?_eq_some_iff_spells
  refine ⟨hspells, ?unique, (matchOffset?_eq text term).trans (matchBytes?_eq _ _), ?torn, ?longer,
    ?others⟩
  case unique =>
    intro j k hj hk
    exact Option.some.inj (((hspells j).2 hj).symm.trans ((hspells k).2 hk))
  case torn =>
    intro before c after letters more htext hletters hne hmore hterm
    exact matchOffset?_eq_none_of_torn htext hletters hne hmore hterm
  case longer =>
    intro k more h
    exact matchOffset?_append h more
  case others =>
    intro other j k hne hj hk
    obtain ⟨stretch, hmatch, rfl⟩ := matchOffset?_eq_some_iff.1 hj
    obtain ⟨longer, hlonger, rfl⟩ := matchOffset?_eq_some_iff.1 hk
    rw [← String.length_toList, ← String.length_toList, ← utf8Len_toList, ← utf8Len_toList]
    exact hmatch.utf8Len_lt_iff hlonger (mt String.toList_inj.1 hne)

/-- The dotted capital I has two letters in lower case. A term with both of them matches, a term with
the first one only does not. -/
theorem dotted_capital_spells_two_letters :
    let text := "İs"
    matchOffset? text "i̇" = some 2 ∧ matchOffset? text "i̇s" = some 3 ∧
      matchOffset? text "i" = none ∧ matchOffset? (text ++ "tanbul") "i̇" = some 2 ∧
      Spells text 2 "i̇" ∧ "i̇".length < "i̇s".length := by
  intro text
  have hshort : matchOffset? text "i̇" = some 2 := by decide +kernel
  have hlong : matchOffset? text "i̇s" = some 3 := by decide +kernel
  obtain ⟨hspells, -, -, -, hmore, hothers⟩ := terms_match_spelled_characters text "i̇"
  obtain ⟨-, -, -, htorn, -, -⟩ := terms_match_spelled_characters text "i"
  have hletters : Text.lowerChar 'İ' = ['i'] ++ ['\u0307'] := by decide +kernel
  have hnone : matchOffset? text "i" = none :=
    htorn [] 'İ' ['s'] ['i'] ['\u0307'] (by decide +kernel) hletters (by decide) (by decide)
      (by decide +kernel)
  obtain ⟨-, hlength, -⟩ := hothers "i̇s" 2 3 (by decide) hshort hlong
  exact ⟨hshort, hlong, hnone, hmore 2 "tanbul" hshort, (hspells 2).1 hshort,
    hlength.1 (by decide)⟩

end NoteSearch.Highlight
