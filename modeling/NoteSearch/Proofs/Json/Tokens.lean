-- SUMMARY: A token that has been written is read back, whatever follows it.
import NoteSearch.Json.Tree
import NoteSearch.Proofs.Text.Numerals

/-!
# Tokens are read back

Every token but a number ends where its text ends. A number goes on as long as it can, so it is
read back only if what follows could not be a part of it (`Token.NoNumeral`). The one law for all
tokens is `Token.tokens?_write`.
-/

namespace NoteSearch.Json

/-! ## Literals -/

/-- Some digits, and nothing else. -/
def IsDigits (ds : List Char) : Prop := ds ≠ [] ∧ ∀ c ∈ ds, c.isDigit = true

/-- The numbers that JSON has. -/
structure Number.IsLiteral (n : Number) : Prop where
  whole : IsDigits n.whole
  /-- A leading zero stands alone. -/
  leading : n.whole.head? = some '0' → n.whole = ['0']
  fraction : ∀ ds ∈ n.fraction, IsDigits ds
  exponent : ∀ e ∈ n.exponent, IsDigits e.2

theorem isDigits_toDigits (n : Nat) : IsDigits (Nat.toDigits 10 n) :=
  ⟨Nat.toDigits_ne_nil, fun _ => Text.isDigit_of_mem_toDigits⟩

theorem toDigits_leading {n : Nat} (h : (Nat.toDigits 10 n).head? = some '0') :
    Nat.toDigits 10 n = ['0'] := by
  rcases Nat.eq_zero_or_pos n with rfl | hn
  · rfl
  · exact absurd h (Text.head?_toDigits hn)

theorem Number.isLiteral_ofInt (i : Int) : (Number.ofInt i).IsLiteral where
  whole := isDigits_toDigits _
  leading := toDigits_leading
  fraction := by simp [Number.ofInt]
  exponent := by simp [Number.ofInt]

theorem Number.isLiteral_ofNat (n : Nat) : (Number.ofNat n).IsLiteral := isLiteral_ofInt n

namespace Token

open Text (NoDigit)

variable {t rest ds s : List Char} {n : Number} {k : Token}

/-! ## Numbers -/

/-- Nothing at the start of a text could be a part of a number before it. -/
def NoNumeral (t : List Char) : Prop :=
  ∀ c ∈ t.head?, c.isDigit = false ∧ c ≠ '.' ∧ c ≠ 'e' ∧ c ≠ 'E'

@[simp] theorem noNumeral_nil : NoNumeral [] := by simp [NoNumeral]

@[simp] theorem noNumeral_cons {c : Char} :
    NoNumeral (c :: t) ↔ c.isDigit = false ∧ c ≠ '.' ∧ c ≠ 'e' ∧ c ≠ 'E' := by
  simp [NoNumeral]

theorem NoNumeral.noDigit (h : NoNumeral t) : NoDigit t := fun c hc => (h c hc).1

theorem digits?_append (hds : IsDigits ds) (h : NoDigit rest) :
    digits? (ds ++ rest) = some (ds, rest) := by
  rw [digits?, Text.takeWhile_digits hds.2 h, Text.dropWhile_digits hds.2 h]
  cases ds with
  | nil => exact absurd rfl hds.1
  | cons => rfl

theorem whole?_append (hds : IsDigits ds) (hleading : ds.head? = some '0' → ds = ['0'])
    (h : NoDigit rest) : whole? (ds ++ rest) = some (ds, rest) := by
  rw [whole?, Text.takeWhile_digits hds.2 h, Text.dropWhile_digits hds.2 h]
  split
  · exact absurd rfl hds.1
  · exact absurd (hleading rfl) (by simp)
  · rfl

/-- The fraction of a number as written. -/
def fractionText : Option (List Char) → List Char
  | some digits => '.' :: digits
  | none => []

/-- The exponent of a number as written. -/
def exponentText : Option (Bool × List Char) → List Char
  | some (true, digits) => 'e' :: '-' :: digits
  | some (false, digits) => 'e' :: digits
  | none => []

theorem writeNumber_eq (n : Number) : Tree.writeNumber n =
    (if n.negative then ['-'] else []) ++
      (n.whole ++ (fractionText n.fraction ++ exponentText n.exponent)) := by
  simp only [Tree.writeNumber, List.append_assoc]
  rfl

/-- Digits have no sign of their own in front. -/
theorem ne_of_isDigits {c : Char} (h : IsDigits (c :: ds)) : c ≠ '+' ∧ c ≠ '-' := by
  have hc := h.2 c List.mem_cons_self
  constructor
  · rintro rfl
    cases hc
  · rintro rfl
    cases hc

theorem exponentSign_digits (hds : IsDigits ds) (t : List Char) :
    exponentSign (ds ++ t) = (false, ds ++ t) := by
  cases ds with
  | nil => exact absurd rfl hds.1
  | cons c ds => simp [exponentSign, ne_of_isDigits hds]

theorem numberSign_digits (hds : IsDigits ds) (t : List Char) :
    numberSign (ds ++ t) = (false, ds ++ t) := by
  cases ds with
  | nil => exact absurd rfl hds.1
  | cons c ds => simp [numberSign, ne_of_isDigits hds]

theorem exponent?_exponentText {e : Option (Bool × List Char)} (he : ∀ x ∈ e, IsDigits x.2)
    (h : NoNumeral rest) : exponent? (exponentText e ++ rest) = some (e, rest) := by
  match e with
  | none =>
    cases rest with
    | nil => rfl
    | cons c rest =>
      obtain ⟨-, -, hlow, hhigh⟩ := noNumeral_cons.1 h
      simp [exponentText, exponent?, hlow, hhigh]
  | some (true, ds) =>
    have hds : IsDigits ds := he _ rfl
    simp [exponentText, exponent?, exponentDigits?, exponentSign, digits?_append hds h.noDigit]
  | some (false, ds) =>
    have hds : IsDigits ds := he _ rfl
    simp [exponentText, exponent?, exponentDigits?, exponentSign_digits hds,
      digits?_append hds h.noDigit]

/-- What follows the fraction could not be a part of it. -/
theorem head?_exponentText (e : Option (Bool × List Char)) (h : NoNumeral rest) :
    ∀ c ∈ (exponentText e ++ rest).head?, c.isDigit = false ∧ c ≠ '.' := by
  match e with
  | none => exact fun c hc => ⟨(h c hc).1, (h c hc).2.1⟩
  | some (true, _) => simp [exponentText]
  | some (false, _) => simp [exponentText]

theorem fraction?_fractionText {f : Option (List Char)} (hf : ∀ ds ∈ f, IsDigits ds)
    (h : ∀ c ∈ t.head?, c.isDigit = false ∧ c ≠ '.') :
    fraction? (fractionText f ++ t) = some (f, t) := by
  cases f with
  | none =>
    cases t with
    | nil => rfl
    | cons c t => simp [fractionText, fraction?, (h c rfl).2]
  | some ds => simp [fractionText, fraction?, digits?_append (hf ds rfl) fun c hc => (h c hc).1]

theorem noDigit_fractionText (f : Option (List Char)) (h : NoDigit t) :
    NoDigit (fractionText f ++ t) := by
  cases f with
  | none => exact h
  | some _ => exact Text.noDigit_cons.2 rfl

/-- A literal is read back where no other part of a number follows. -/
theorem number?_writeNumber (hn : n.IsLiteral) (h : NoNumeral rest) :
    number? (Tree.writeNumber n ++ rest) = some (n, rest) := by
  have hexponent := exponent?_exponentText hn.exponent h
  have hhead := head?_exponentText n.exponent h
  have hfraction := fraction?_fractionText hn.fraction hhead
  have hwhole := whole?_append hn.whole hn.leading
    (noDigit_fractionText n.fraction fun c hc => (hhead c hc).1)
  rw [writeNumber_eq]
  obtain ⟨negative, whole, fraction, exponent⟩ := n
  cases negative with
  | true => simp [number?, numberSign, hwhole, hfraction, hexponent]
  | false => simp [number?, numberSign_digits hn.whole, hwhole, hfraction, hexponent]

/-! ## Strings -/

theorem hexValue?_lowerHex : ∀ d < 16, Text.hexValue? (Text.lowerHex d) = some d := by decide

/-- The escape of a control character stands for it. -/
theorem hex4?_lowerHex {c : Char} (h : c.toNat < 0x20) :
    hex4? '0' '0' (Text.lowerHex (c.toNat / 16)) (Text.lowerHex (c.toNat % 16)) =
      some c.toNat := by
  have hzero : Text.hexValue? '0' = some 0 := by decide
  simp only [hex4?, hzero, hexValue?_lowerHex (c.toNat / 16) (by omega),
    hexValue?_lowerHex (c.toNat % 16) (by omega), Option.bind_eq_bind, Option.bind_some,
    Option.some.injEq]
  omega

theorem ofUnit_toNat {c : Char} (h : c.toNat < 0x20) : Piece.ofUnit c.toNat = .char c := by
  rw [Piece.ofUnit, if_neg (by omega), if_neg (by omega), Char.ofNat_toNat]

theorem pieces?_shortEscape {e c : Char} (h : shortEscape? e = some c) (t : List Char) :
    pieces? ('\\' :: e :: t) = (pieces? t).map fun (pieces, rest) => (.char c :: pieces, rest) := by
  have hunit : e ≠ 'u' := by
    rintro rfl
    cases h
  rw [pieces?, h]
  · cases pieces? t <;> rfl
  · simp [hunit]

theorem pieces?_plain {c : Char} (hquote : c ≠ '"') (hescape : c ≠ '\\') (hc : ¬ c.toNat < 0x20)
    (t : List Char) :
    pieces? (c :: t) = (pieces? t).map fun (pieces, rest) => (.char c :: pieces, rest) := by
  rw [pieces?, if_neg (by simp [hc, hescape])]
  · cases pieces? t <;> rfl
  all_goals simp [hquote, hescape]

theorem pieces?_writeChar (c : Char) (t : List Char) :
    pieces? (Tree.writeChar c ++ t) =
      (pieces? t).map fun (pieces, rest) => (.char c :: pieces, rest) := by
  unfold Tree.writeChar
  iterate 7
    split
    · subst c
      exact pieces?_shortEscape rfl t
  split
  · rename_i hcontrol
    simp only [List.cons_append, List.nil_append, pieces?, hex4?_lowerHex hcontrol]
    cases pieces? t with
    | none => rfl
    | some => simp [ofUnit_toNat hcontrol]
  · exact pieces?_plain ‹_› ‹_› ‹_› t

theorem pieces?_flatMap_writeChar (s rest : List Char) :
    pieces? (s.flatMap Tree.writeChar ++ '"' :: rest) = some (s.map .char, rest) := by
  induction s with
  | nil => rfl
  | cons c s ih => simp [List.flatMap_cons, pieces?_writeChar, ih]

theorem spell?_map_char (s : List Char) : spell? (s.map .char) = some s := by
  induction s with
  | nil => rfl
  | cons c s ih => simp [spell?, ih]

theorem token?_writeString {text? : Option String} (h : text?.isSome) (rest : List Char) :
    token? (Tree.writeString text? ++ rest) = some (string text?, rest) := by
  obtain ⟨s, rfl⟩ := Option.isSome_iff_exists.1 h
  simp [Tree.writeString, token?, string?, pieces?_flatMap_writeChar, spell?_map_char,
    String.ofList_toList]

/-! ## All tokens -/

/-- A token as it is written. -/
def write : Token → List Char
  | openArray => ['[']
  | closeArray => [']']
  | openObject => ['\x7b']
  | closeObject => ['\x7d']
  | comma => [',']
  | colon => [':']
  | null => "null".toList
  | bool true => "true".toList
  | bool false => "false".toList
  | number n => Tree.writeNumber n
  | string text? => Tree.writeString text?

/-- The tokens that have a text: numbers are literals, and strings spell something. -/
def IsWritten : Token → Prop
  | number n => n.IsLiteral
  | string text? => text?.isSome
  | _ => True

/-- A literal starts with a digit or a minus sign. -/
theorem writeNumber_eq_cons (hn : n.IsLiteral) :
    ∃ c t, Tree.writeNumber n = c :: t ∧ (c.isDigit = true ∨ c = '-') := by
  obtain ⟨hne, hdigits⟩ := hn.whole
  rw [writeNumber_eq]
  cases hsign : n.negative with
  | true => exact ⟨'-', _, rfl, .inr rfl⟩
  | false =>
    cases hwhole : n.whole with
    | nil => exact absurd hwhole hne
    | cons c cs => exact ⟨c, _, rfl, .inl (hdigits c (by simp [hwhole]))⟩

/-- No other token starts as a number does. -/
theorem token?_number {c : Char} (h : c.isDigit = true ∨ c = '-') (t : List Char) :
    token? (c :: t) = (number? (c :: t)).map fun (n, rest) => (number n, rest) := by
  unfold token?
  split
  case h_11 => rfl
  all_goals simp_all

theorem token?_write (hk : k.IsWritten) (h : ∀ n, k = number n → NoNumeral rest) :
    token? (k.write ++ rest) = some (k, rest) := by
  match k with
  | number n =>
    obtain ⟨c, t, htext, hc⟩ := writeNumber_eq_cons hk
    have hread := number?_writeNumber hk (h n rfl)
    rw [write, htext, List.cons_append] at *
    rw [token?_number hc, hread]
    rfl
  | string _ => exact token?_writeString hk rest
  | openArray | closeArray | openObject | closeObject | comma | colon | null | bool true
  | bool false => rfl

theorem isBlank_of_numeral {c : Char} (h : c.isDigit = true ∨ c = '-') : isBlank c = false := by
  rw [← Bool.not_eq_true]
  intro hblank
  simp only [isBlank, Bool.or_eq_true, beq_iff_eq] at hblank
  rcases hblank with ((rfl | rfl) | rfl) | rfl <;> simp at h

/-- The text of a token does not start with a blank. -/
theorem write_eq_cons (hk : k.IsWritten) : ∃ c t, k.write = c :: t ∧ isBlank c = false := by
  match k with
  | number n =>
    obtain ⟨c, t, htext, hc⟩ := writeNumber_eq_cons hk
    exact ⟨c, t, htext, isBlank_of_numeral hc⟩
  | string _ => exact ⟨_, _, rfl, rfl⟩
  | openArray | closeArray | openObject | closeObject | comma | colon | null | bool true
  | bool false => exact ⟨_, _, rfl, rfl⟩

/-- A token is read first if the text does not start with a blank. -/
theorem tokens?_cons {c : Char} (hc : isBlank c = false) (h : token? (c :: t) = some (k, rest)) :
    tokens? (c :: t) = (tokens? rest).map (k :: ·) := by
  have hkept : (c :: t).dropWhile isBlank = c :: t := by simp [hc]
  rw [tokens?]
  split
  · rename_i hskipped
    simp [hkept] at hskipped
  · rename_i c' t' hskipped
    obtain ⟨rfl, rfl⟩ : c = c' ∧ t = t' := by simpa [hkept] using hskipped
    split
    · rename_i hread
      rw [h] at hread
      cases hread
    · rename_i hread
      rw [h] at hread
      cases hread
      rfl

/-- A written token is read back, a number only where the number ends. -/
theorem tokens?_write (hk : k.IsWritten) (h : ∀ n, k = number n → NoNumeral rest) :
    tokens? (k.write ++ rest) = (tokens? rest).map (k :: ·) := by
  obtain ⟨c, t, htext, hc⟩ := write_eq_cons hk
  have hread := token?_write hk h
  rw [htext] at hread ⊢
  exact tokens?_cons hc hread

end Token

end NoteSearch.Json
