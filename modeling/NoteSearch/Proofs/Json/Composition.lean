-- SUMMARY: The texts of documents can be put together: a document reads alike alone and as a part of another one.
import Mathlib.Data.List.Forall2
import NoteSearch.Proofs.Json.Documents

/-!
# Texts put together

A text is cut into the same tokens before another one, unless a number at its end could go on there
(`Token.tokens?_before`). The machine that reads documents accepts the tokens of a document and no
others (`Tree.ofTokens?_eq_some_iff`), since every state tells by which tokens it has been reached
(`Tree.State.taken_run`). So texts that are documents can be members of an object, with whatever
blanks and escapes they have, and the object has their documents in it (`Tree.ofText?_objectText`).
-/

namespace NoteSearch.Json

namespace Token

open Text (NoDigit bind_of_eq_some)

variable {t rest u : List Char}

/-! ## Numbers before other texts -/

theorem takeWhile_before (t : List Char) (hu : NoDigit u) :
    (t ++ u).takeWhile Char.isDigit = t.takeWhile Char.isDigit := by
  induction t with
  | nil =>
    cases u with
    | nil => rfl
    | cons c u => simp [Text.noDigit_cons.1 hu]
  | cons c t ih => simp [List.takeWhile_cons, ih]

theorem dropWhile_before (t : List Char) (hu : NoDigit u) :
    (t ++ u).dropWhile Char.isDigit = t.dropWhile Char.isDigit ++ u := by
  induction t with
  | nil =>
    cases u with
    | nil => rfl
    | cons c u => simp [Text.noDigit_cons.1 hu]
  | cons c t ih =>
    simp only [List.cons_append, List.dropWhile_cons, ih]
    split <;> rfl

theorem digits?_before {ds : List Char} (hr : digits? t = some (ds, rest)) (hu : NoDigit u) :
    digits? (t ++ u) = some (ds, rest ++ u) := by
  unfold digits? at hr ⊢
  rw [takeWhile_before t hu, dropWhile_before t hu]
  split at hr
  · cases hr
  · cases hr
    rfl

theorem whole?_before {ds : List Char} (hr : whole? t = some (ds, rest)) (hu : NoDigit u) :
    whole? (t ++ u) = some (ds, rest ++ u) := by
  unfold whole? at hr ⊢
  rw [takeWhile_before t hu, dropWhile_before t hu]
  split at hr
  · cases hr
  · cases hr
  · cases hr
    rfl

theorem fraction?_before {f : Option (List Char)} (hr : fraction? t = some (f, rest))
    (hu : NoNumeral u) : fraction? (t ++ u) = some (f, rest ++ u) := by
  cases t with
  | nil =>
    cases hr
    exact fraction?_fractionText (f := none) nofun fun c hc => ⟨(hu c hc).1, (hu c hc).2.1⟩
  | cons c t =>
    by_cases hc : c = '.'
    · subst hc
      simp only [fraction?, Option.map_eq_some_iff, Prod.exists, Prod.mk.injEq] at hr
      obtain ⟨ds, r, hds, rfl, rfl⟩ := hr
      simp [fraction?, digits?_before hds hu.noDigit]
    · obtain ⟨rfl, rfl⟩ : none = f ∧ c :: t = rest := by simpa [fraction?, hc] using hr
      simp [fraction?, hc]

theorem exponentSign_before (ht : t ≠ []) (u : List Char) :
    exponentSign (t ++ u) = ((exponentSign t).1, (exponentSign t).2 ++ u) := by
  cases t with
  | nil => exact absurd rfl ht
  | cons c t =>
    by_cases hplus : c = '+'
    · subst hplus
      rfl
    · by_cases hminus : c = '-'
      · subst hminus
        rfl
      · simp [exponentSign, hplus, hminus]

theorem exponentDigits?_before {e : Option (Bool × List Char)}
    (hr : exponentDigits? t = some (e, rest)) (hu : NoDigit u) :
    exponentDigits? (t ++ u) = some (e, rest ++ u) := by
  have ht : t ≠ [] := by
    rintro rfl
    cases hr
  simp only [exponentDigits?, Option.map_eq_some_iff, Prod.exists, Prod.mk.injEq] at hr
  obtain ⟨ds, r, hds, rfl, rfl⟩ := hr
  simp [exponentDigits?, exponentSign_before ht, digits?_before hds hu]

theorem exponent?_before {e : Option (Bool × List Char)} (hr : exponent? t = some (e, rest))
    (hu : NoNumeral u) : exponent? (t ++ u) = some (e, rest ++ u) := by
  cases t with
  | nil =>
    cases hr
    exact exponent?_exponentText (e := none) nofun hu
  | cons c t =>
    by_cases hlow : c = 'e'
    · subst hlow
      exact exponentDigits?_before hr hu.noDigit
    · by_cases hhigh : c = 'E'
      · subst hhigh
        exact exponentDigits?_before hr hu.noDigit
      · obtain ⟨rfl, rfl⟩ : none = e ∧ c :: t = rest := by simpa [exponent?, hlow, hhigh] using hr
        simp [exponent?, hlow, hhigh]

theorem numberSign_before (ht : t ≠ []) (u : List Char) :
    numberSign (t ++ u) = ((numberSign t).1, (numberSign t).2 ++ u) := by
  cases t with
  | nil => exact absurd rfl ht
  | cons c t =>
    by_cases hminus : c = '-'
    · subst hminus
      rfl
    · simp [numberSign, hminus]

theorem whole?_head {ds : List Char} (hr : whole? t = some (ds, rest)) :
    ∃ c t', t = c :: t' ∧ c.isDigit = true := by
  cases t with
  | nil => cases hr
  | cons c t =>
    refine ⟨c, t, rfl, ?_⟩
    by_cases hc : c.isDigit = true
    · exact hc
    · simp [whole?, hc] at hr

/-- A number starts with a digit or a minus sign. -/
theorem number?_head {n : Number} (hr : number? t = some (n, rest)) :
    ∃ c t', t = c :: t' ∧ (c.isDigit = true ∨ c = '-') := by
  simp only [number?, Option.bind_eq_bind, Option.bind_eq_some_iff, Prod.exists] at hr
  obtain ⟨ds, r, hwhole, -⟩ := hr
  obtain ⟨c, t', ht, hc⟩ := whole?_head hwhole
  cases t with
  | nil => cases ht
  | cons first t =>
    by_cases hminus : first = '-'
    · exact ⟨first, t, rfl, .inr hminus⟩
    · obtain ⟨rfl, rfl⟩ : first = c ∧ t = t' := by simpa [numberSign, hminus] using ht
      exact ⟨first, t, rfl, .inl hc⟩

theorem number?_before {n : Number} (hr : number? t = some (n, rest)) (hu : NoNumeral u) :
    number? (t ++ u) = some (n, rest ++ u) := by
  have ht : t ≠ [] := by
    obtain ⟨c, t', rfl, -⟩ := number?_head hr
    exact List.cons_ne_nil _ _
  simp only [number?, Option.bind_eq_bind, Option.bind_eq_some_iff, Prod.exists] at hr
  obtain ⟨ds, t1, hwhole, f, t2, hfraction, e, t3, hexponent, hn⟩ := hr
  cases hn
  simp only [number?, numberSign_before ht]
  refine bind_of_eq_some (whole?_before hwhole hu.noDigit) ?_
  refine bind_of_eq_some (fraction?_before hfraction hu) ?_
  exact bind_of_eq_some (exponent?_before hexponent hu) rfl

/-! ## Tokens before other texts -/

theorem pieces?_before {ps : List Piece} (hr : pieces? t = some (ps, rest)) (u : List Char) :
    pieces? (t ++ u) = some (ps, rest ++ u) := by
  fun_induction pieces? t generalizing ps rest with
  | case1 => cases hr
  | case2 t =>
    cases hr
    simp [pieces?]
  | case3 a b c d t ih =>
    simp only [Option.bind_eq_bind, Option.bind_eq_some_iff, Option.some.injEq, Prod.exists,
      Prod.mk.injEq] at hr
    obtain ⟨unit, hunit, ps, rest, hps, rfl, rfl⟩ := hr
    simp [pieces?, hunit, ih hps]
  | case4 e t _ ih =>
    simp only [Option.bind_eq_bind, Option.bind_eq_some_iff, Option.some.injEq, Prod.exists,
      Prod.mk.injEq] at hr
    obtain ⟨c, hc, ps, rest, hps, rfl, rfl⟩ := hr
    simp [pieces?_shortEscape hc, ih hps]
  | case5 => cases hr
  | case6 c t hquote _ _ hplain ih =>
    simp only [Option.bind_eq_bind, Option.bind_eq_some_iff, Option.some.injEq, Prod.exists,
      Prod.mk.injEq] at hr
    obtain ⟨ps, rest, hps, rfl, rfl⟩ := hr
    rw [not_or] at hplain
    simp [pieces?_plain hquote hplain.2 hplain.1, ih hps]

theorem token?_before {k : Token} (hr : token? t = some (k, rest)) (hu : NoNumeral u) :
    token? (t ++ u) = some (k, rest ++ u) := by
  unfold token? at hr
  split at hr
  case h_7 =>
    simp only [string?, Option.map_eq_some_iff, Prod.exists, Prod.mk.injEq] at hr
    obtain ⟨ps, rest, hps, rfl, rfl⟩ := hr
    simp [token?, string?, pieces?_before hps]
  case h_11 =>
    simp only [Option.map_eq_some_iff, Prod.exists, Prod.mk.injEq] at hr
    obtain ⟨n, rest, hn, rfl, rfl⟩ := hr
    obtain ⟨c, t, rfl, hc⟩ := number?_head hn
    have hread := number?_before hn hu
    rw [List.cons_append] at hread ⊢
    rw [token?_number hc, hread]
    rfl
  all_goals
    cases hr
    rfl

/-- Blanks in front of a text are skipped. -/
theorem tokens?_congr (h : t.dropWhile isBlank = u.dropWhile isBlank) : tokens? t = tokens? u := by
  rw [tokens?, tokens?, h]

/-- Before a text at whose start no number can go on, the tokens of another text are its own. -/
theorem tokens?_before {ks : List Token} (hr : tokens? t = some ks) (hu : NoNumeral u) :
    tokens? (t ++ u) = (tokens? u).map (ks ++ ·) := by
  fun_induction tokens? t generalizing ks with
  | case1 t hblank =>
    cases hr
    have hskip : (t ++ u).dropWhile isBlank = u.dropWhile isBlank := by
      simp [List.dropWhile_append, hblank]
    simp [tokens?_congr hskip]
  | case2 => cases hr
  | case3 t c cs hskipped k rest hread ih =>
    obtain ⟨ks, hks, rfl⟩ := Option.map_eq_some_iff.1 hr
    have hc : isBlank c = false := by
      have hhead := List.head?_dropWhile_not isBlank t
      rwa [hskipped] at hhead
    have hskip : (t ++ u).dropWhile isBlank = (c :: (cs ++ u)).dropWhile isBlank := by
      simp [List.dropWhile_append, hskipped, hc]
    have hfirst : tokens? (c :: (cs ++ u)) = (tokens? (rest ++ u)).map (k :: ·) :=
      tokens?_cons hc (token?_before hread hu)
    rw [tokens?_congr hskip, hfirst, ih hks]
    simp [Function.comp_def]

end Token

namespace Tree

open Token (NoNumeral tokens?)

/-! ## What the machine has taken -/

/-- The tokens of items with a comma behind each. -/
def itemsTaken (items : List Tree) : List Token :=
  items.flatMap fun item => item.tokens ++ [.comma]

/-- The tokens of members with a comma behind each. -/
def membersTaken (members : List (Option String × Tree)) : List Token :=
  members.flatMap fun m => .string m.1 :: .colon :: (m.2.tokens ++ [.comma])

theorem itemTokens_concat (items : List Tree) (last : Tree) :
    itemTokens (items ++ [last]) = itemsTaken items ++ last.tokens := by
  induction items with
  | nil => rfl
  | cons item items ih =>
    cases items with
    | nil => simp [itemTokens, itemsTaken]
    | cons next items =>
      rw [List.cons_append] at ih
      rw [List.cons_append, List.cons_append, itemTokens, ih]
      simp [itemsTaken]

theorem memberTokens_concat (members : List (Option String × Tree)) (name : Option String)
    (value : Tree) : memberTokens (members ++ [(name, value)]) =
      membersTaken members ++ .string name :: .colon :: value.tokens := by
  induction members with
  | nil => rfl
  | cons m members ih =>
    cases members with
    | nil => simp [memberTokens, membersTaken]
    | cons next members =>
      rw [List.cons_append] at ih
      rw [List.cons_append, List.cons_append, memberTokens, ih]
      simp [membersTaken]

/-- The tokens by which the open containers have come to wait for a value. -/
def Frame.taken : List Frame → List Token
  | [] => []
  | .array before :: stack => taken stack ++ .openArray :: itemsTaken before.reverse
  | .object before name :: stack =>
    taken stack ++ .openObject :: (membersTaken before.reverse ++ [.string name, .colon])

/-- The tokens by which the machine has come to a state. -/
def State.taken : State → List Token
  | .value stack => Frame.taken stack
  | .firstItem stack => Frame.taken stack ++ [.openArray]
  | .firstName stack => Frame.taken stack ++ [.openObject]
  | .nextName stack before => Frame.taken stack ++ .openObject :: membersTaken before.reverse
  | .colon stack before name =>
    Frame.taken stack ++ .openObject :: (membersTaken before.reverse ++ [.string name])
  | .done stack v => Frame.taken stack ++ v.tokens

variable {s s' : State} {stack : List Frame} {k : Token} {ks : List Token} {t : Tree}

theorem State.taken_begin (h : State.begin stack k = some s) :
    s.taken = Frame.taken stack ++ [k] := by
  unfold State.begin at h
  split at h
  case h_7 => cases h
  all_goals
    cases h
    rfl

theorem State.taken_resume {v : Tree} (h : State.resume stack v k = some s) :
    s.taken = Frame.taken stack ++ v.tokens ++ [k] := by
  unfold State.resume at h
  split at h
  case h_5 => cases h
  all_goals
    cases h
    simp [taken, Frame.taken, tokens, itemTokens_concat, memberTokens_concat, itemsTaken,
      membersTaken]

theorem State.taken_step (h : s.step k = some s') : s'.taken = s.taken ++ [k] := by
  unfold State.step at h
  split at h
  case h_1 => exact taken_begin h
  case h_3 =>
    rw [taken_begin h]
    simp [taken, Frame.taken, itemsTaken]
  case h_8 => exact taken_resume h
  case h_9 => cases h
  all_goals
    cases h
    simp [taken, Frame.taken, tokens, itemTokens, memberTokens, membersTaken]

theorem State.taken_run (h : s.run ks = some s') : s'.taken = s.taken ++ ks := by
  induction ks generalizing s with
  | nil =>
    cases h
    rw [List.append_nil]
  | cons k ks ih =>
    rw [run] at h
    split at h
    · rename_i next hstep
      rw [ih h, taken_step hstep, List.append_assoc, List.singleton_append]
    · cases h

/-- The machine takes the tokens of a document, and no others. -/
theorem ofTokens?_eq_some_iff : ofTokens? ks = some t ↔ ks = t.tokens := by
  constructor
  · intro h
    obtain ⟨s, hrun, hresult⟩ := Option.bind_eq_some_iff.1 h
    unfold State.result? at hresult
    split at hresult
    · cases hresult
      exact (State.taken_run hrun).symm
    · cases hresult
  · rintro rfl
    exact ofTokens?_tokens t

theorem ofText?_eq_some_iff {text : String} :
    ofText? text = some t ↔ tokens? text.toList = some t.tokens := by
  simp only [ofText?, read?, Option.bind_eq_some_iff, ofTokens?_eq_some_iff, exists_eq_right]

/-! ## Objects put together -/

/-- The text of a name and the text of a value, with a colon between them. -/
def memberText (m : String × String) : String := m.1 ++ ":" ++ m.2

/-- The texts of members, with commas between them. -/
def membersText (members : List (String × String)) : String :=
  ",".intercalate (members.map memberText)

/-- The text of an object whose names and values have the given texts. -/
def objectText (members : List (String × String)) : String :=
  "\x7b" ++ membersText members ++ "\x7d"

/-- A member has the texts of its name and of its value. -/
def IsMemberText (text : String × String) (m : Option String × Tree) : Prop :=
  ofText? text.1 = some (.string m.1) ∧ ofText? text.2 = some m.2

variable {texts : List (String × String)} {members : List (Option String × Tree)}
  {rest : List Char}

theorem membersText_cons_cons (text next : String × String) (texts : List (String × String)) :
    (membersText (text :: next :: texts)).toList =
      (memberText text).toList ++ ',' :: (membersText (next :: texts)).toList := by
  simp only [membersText, List.map_cons, String.intercalate_cons_cons, String.toList_append,
    List.append_assoc]
  rfl

theorem tokens?_memberText {text : String × String} {m : Option String × Tree}
    (h : IsMemberText text m) (hrest : NoNumeral rest) :
    tokens? ((memberText text).toList ++ rest) =
      (tokens? rest).map fun ks => .string m.1 :: .colon :: (m.2.tokens ++ ks) := by
  have hname : tokens? text.1.toList = some [.string m.1] := ofText?_eq_some_iff.1 h.1
  have hvalue := ofText?_eq_some_iff.1 h.2
  have hcolon : NoNumeral (':' :: (text.2.toList ++ rest)) := by simp
  simp only [memberText, String.toList_append, List.append_assoc]
  show tokens? (text.1.toList ++ ':' :: (text.2.toList ++ rest)) = _
  rw [Token.tokens?_before hname hcolon, Token.tokens?_cons (c := ':') rfl rfl,
    Token.tokens?_before hvalue hrest]
  simp [Function.comp_def]

theorem tokens?_membersText (h : List.Forall₂ IsMemberText texts members)
    (hrest : NoNumeral rest) :
    tokens? ((membersText texts).toList ++ rest) =
      (tokens? rest).map (memberTokens members ++ ·) := by
  induction h with
  | nil => simp [membersText, memberTokens]
  | @cons text m texts members htext htexts ih =>
    cases htexts with
    | nil =>
      rw [membersText, List.map_singleton, String.intercalate_singleton,
        tokens?_memberText htext hrest]
      rfl
    | @cons next m' texts members hnext htexts =>
      have hcomma : NoNumeral (',' :: ((membersText (next :: texts)).toList ++ rest)) := by simp
      rw [membersText_cons_cons, List.append_assoc, List.cons_append,
        tokens?_memberText htext hcomma, Token.tokens?_cons (c := ',') rfl rfl, ih]
      simp [memberTokens, Function.comp_def]

/-- An object that is put together has the documents of its parts. -/
theorem ofText?_objectText (h : List.Forall₂ IsMemberText texts members) :
    ofText? (objectText texts) = some (.object members) := by
  have hmembers : tokens? ((membersText texts).toList ++ ['\x7d']) = _ :=
    tokens?_membersText h (by simp)
  have hclose : tokens? ['\x7d'] = some [.closeObject] := by
    rw [Token.tokens?_cons (c := '\x7d') rfl rfl, tokens?_nil]
    rfl
  rw [ofText?_eq_some_iff, objectText, String.toList_append, String.toList_append]
  show tokens? ('\x7b' :: ((membersText texts).toList ++ ['\x7d'])) = _
  rw [Token.tokens?_cons (c := '\x7b') rfl rfl, hmembers, hclose]
  rfl

end Tree

end NoteSearch.Json
