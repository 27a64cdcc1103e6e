-- SUMMARY: JSON text as a sequence of tokens.
import NoteSearch.Json.Number
import NoteSearch.Text.Hex

/-!
# Tokens

`tokens?` cuts a JSON text into tokens and drops the blanks between them. A string token holds
the text it spells; an escaped half of a surrogate pair without its other half spells none.
-/

namespace NoteSearch.Json

inductive Token where
  | openArray
  | closeArray
  | openObject
  | closeObject
  | comma
  | colon
  | null
  | bool (value : Bool)
  | number (value : Number)
  /-- A string, with the text it spells if it spells one. -/
  | string (text? : Option String)
  deriving DecidableEq

namespace Token

/-! ## Blanks -/

def isBlank (c : Char) : Bool := c == ' ' || c == '\t' || c == '\n' || c == '\r'

/-! ## Numbers -/

/-- Reads the digits before the point. A leading zero stands alone. -/
def whole? (t : List Char) : Option (List Char × List Char) :=
  match t.takeWhile Char.isDigit with
  | [] => none
  | '0' :: _ :: _ => none
  | digits => some (digits, t.dropWhile Char.isDigit)

def digits? (t : List Char) : Option (List Char × List Char) :=
  match t.takeWhile Char.isDigit with
  | [] => none
  | digits => some (digits, t.dropWhile Char.isDigit)

def fraction? : List Char → Option (Option (List Char) × List Char)
  | '.' :: t => (digits? t).map fun (digits, rest) => (some digits, rest)
  | t => some (none, t)

def exponentSign : List Char → Bool × List Char
  | '+' :: t => (false, t)
  | '-' :: t => (true, t)
  | t => (false, t)

def exponentDigits? (t : List Char) : Option (Option (Bool × List Char) × List Char) :=
  let (down, t) := exponentSign t
  (digits? t).map fun (digits, rest) => (some (down, digits), rest)

def exponent? : List Char → Option (Option (Bool × List Char) × List Char)
  | 'e' :: t => exponentDigits? t
  | 'E' :: t => exponentDigits? t
  | t => some (none, t)

def numberSign : List Char → Bool × List Char
  | '-' :: t => (true, t)
  | t => (false, t)

def number? (t : List Char) : Option (Number × List Char) := do
  let (negative, t) := numberSign t
  let (whole, t) ← whole? t
  let (fraction, t) ← fraction? t
  let (exponent, t) ← exponent? t
  some (⟨negative, whole, fraction, exponent⟩, t)

/-! ## Strings -/

/-- What one character or escape of a string stands for: a character, or a half of a surrogate
pair. -/
inductive Piece where
  | char (c : Char)
  | high (unit : Nat)
  | low (unit : Nat)
  deriving DecidableEq

/-- The value of four hexadecimal digits. -/
def hex4? (a b c d : Char) : Option Nat := do
  let a ← Text.hexValue? a
  let b ← Text.hexValue? b
  let c ← Text.hexValue? c
  let d ← Text.hexValue? d
  some (((a * 16 + b) * 16 + c) * 16 + d)

def Piece.ofUnit (n : Nat) : Piece :=
  if 0xD800 ≤ n ∧ n < 0xDC00 then .high n
  else if 0xDC00 ≤ n ∧ n < 0xE000 then .low n
  else .char (Char.ofNat n)

def shortEscape? : Char → Option Char
  | '"' => some '"'
  | '\\' => some '\\'
  | '/' => some '/'
  | 'b' => some '\x08'
  | 'f' => some '\x0c'
  | 'n' => some '\n'
  | 'r' => some '\r'
  | 't' => some '\t'
  | _ => none

def pieces? : List Char → Option (List Piece × List Char)
  | [] => none
  | '"' :: t => some ([], t)
  | '\\' :: 'u' :: a :: b :: c :: d :: t => do
    let unit ← hex4? a b c d
    let (rest, t) ← pieces? t
    some (.ofUnit unit :: rest, t)
  | '\\' :: e :: t => do
    let c ← shortEscape? e
    let (rest, t) ← pieces? t
    some (.char c :: rest, t)
  | c :: t => do
    if c.toNat < 0x20 ∨ c = '\\' then none
    else
      let (rest, t) ← pieces? t
      some (.char c :: rest, t)

def joinPair (high low : Nat) : Char :=
  Char.ofNat (0x10000 + (high - 0xD800) * 0x400 + (low - 0xDC00))

/-- The text that pieces spell; nothing if a surrogate lacks its other half. -/
def spell? : List Piece → Option (List Char)
  | [] => some []
  | .char c :: rest => (spell? rest).map (c :: ·)
  | .high h :: .low l :: rest => (spell? rest).map (joinPair h l :: ·)
  | _ => none

def string? (t : List Char) : Option (Token × List Char) :=
  (pieces? t).map fun (pieces, rest) => (string ((spell? pieces).map String.ofList), rest)

/-! ## All tokens -/

def token? : List Char → Option (Token × List Char)
  | '[' :: t => some (openArray, t)
  | ']' :: t => some (closeArray, t)
  | '\x7b' :: t => some (openObject, t)
  | '\x7d' :: t => some (closeObject, t)
  | ',' :: t => some (comma, t)
  | ':' :: t => some (colon, t)
  | '"' :: t => string? t
  | 'n' :: 'u' :: 'l' :: 'l' :: t => some (null, t)
  | 't' :: 'r' :: 'u' :: 'e' :: t => some (bool true, t)
  | 'f' :: 'a' :: 'l' :: 's' :: 'e' :: t => some (bool false, t)
  | t => (number? t).map fun (n, rest) => (number n, rest)

/-! ## A token is not empty -/

theorem length_of_digits? {t digits rest : List Char} (h : digits? t = some (digits, rest)) :
    rest.length ≤ t.length := by
  unfold digits? at h
  split at h
  · simp at h
  · simp only [Option.some.injEq, Prod.mk.injEq] at h
    rw [← h.2]
    exact (List.dropWhile_sublist _).length_le

theorem length_of_whole? {t digits rest : List Char} (h : whole? t = some (digits, rest)) :
    rest.length < t.length := by
  have total := congrArg List.length (List.takeWhile_append_dropWhile (p := Char.isDigit) (l := t))
  rw [List.length_append] at total
  unfold whole? at h
  split at h
  · simp at h
  · simp at h
  · rename_i some_digits _
    simp only [Option.some.injEq, Prod.mk.injEq] at h
    rw [← h.2]
    have : t.takeWhile Char.isDigit ≠ [] := by assumption
    have := List.length_pos_iff.2 this
    omega

theorem length_of_fraction? {t rest : List Char} {f : Option (List Char)}
    (h : fraction? t = some (f, rest)) : rest.length ≤ t.length := by
  unfold fraction? at h
  split at h
  · simp only [Option.map_eq_some_iff, Prod.exists, Prod.mk.injEq] at h
    obtain ⟨_, _, hd, _, rfl⟩ := h
    have := length_of_digits? hd
    simp only [List.length_cons]; omega
  · simp only [Option.some.injEq, Prod.mk.injEq] at h
    obtain ⟨_, rfl⟩ := h
    exact Nat.le_refl _

theorem length_exponentSign (t : List Char) : (exponentSign t).2.length ≤ t.length := by
  unfold exponentSign
  split <;> simp

theorem length_of_exponentDigits? {t rest : List Char} {e : Option (Bool × List Char)}
    (h : exponentDigits? t = some (e, rest)) : rest.length ≤ t.length := by
  simp only [exponentDigits?, Option.map_eq_some_iff, Prod.exists, Prod.mk.injEq] at h
  obtain ⟨_, _, hd, _, rfl⟩ := h
  have := length_of_digits? hd
  have := length_exponentSign t
  omega

theorem length_of_exponent? {t rest : List Char} {e : Option (Bool × List Char)}
    (h : exponent? t = some (e, rest)) : rest.length ≤ t.length := by
  unfold exponent? at h
  split at h
  · have := length_of_exponentDigits? h
    simp only [List.length_cons]; omega
  · have := length_of_exponentDigits? h
    simp only [List.length_cons]; omega
  · simp only [Option.some.injEq, Prod.mk.injEq] at h
    obtain ⟨_, rfl⟩ := h
    exact Nat.le_refl _

theorem length_numberSign (t : List Char) : (numberSign t).2.length ≤ t.length := by
  unfold numberSign
  split <;> simp

theorem length_of_number? {t rest : List Char} {n : Number} (h : number? t = some (n, rest)) :
    rest.length < t.length := by
  simp only [number?, Option.bind_eq_bind, Option.bind_eq_some_iff, Option.some.injEq,
    Prod.exists, Prod.mk.injEq] at h
  obtain ⟨_, _, hw, _, _, hf, _, _, he, _, rfl⟩ := h
  have := length_numberSign t
  have := length_of_whole? hw
  have := length_of_fraction? hf
  have := length_of_exponent? he
  omega

theorem length_of_pieces? {t rest : List Char} {ps : List Piece}
    (h : pieces? t = some (ps, rest)) : rest.length < t.length := by
  fun_induction pieces? t generalizing ps rest with
  | case1 => simp at h
  | case2 t =>
    simp only [Option.some.injEq, Prod.mk.injEq] at h
    simp [← h.2]
  | case3 a b c d t ih =>
    simp only [Option.bind_eq_bind, Option.bind_eq_some_iff, Option.some.injEq, Prod.exists,
      Prod.mk.injEq] at h
    obtain ⟨_, _, _, _, hp, _, rfl⟩ := h
    have := ih hp
    simp only [List.length_cons]; omega
  | case4 e t _ ih =>
    simp only [Option.bind_eq_bind, Option.bind_eq_some_iff, Option.some.injEq, Prod.exists,
      Prod.mk.injEq] at h
    obtain ⟨_, _, _, _, hp, _, rfl⟩ := h
    have := ih hp
    simp only [List.length_cons]; omega
  | case5 => simp at h
  | case6 c t _ _ _ _ ih =>
    simp only [Option.bind_eq_bind, Option.bind_eq_some_iff, Option.some.injEq, Prod.exists,
      Prod.mk.injEq] at h
    obtain ⟨_, _, hp, _, rfl⟩ := h
    have := ih hp
    simp only [List.length_cons]; omega

theorem length_of_token? {t rest : List Char} {k : Token} (h : token? t = some (k, rest)) :
    rest.length < t.length := by
  unfold token? at h
  split at h
  case h_7 =>
    simp only [string?, Option.map_eq_some_iff, Prod.exists, Prod.mk.injEq] at h
    obtain ⟨_, _, hp, _, rfl⟩ := h
    have := length_of_pieces? hp
    simp only [List.length_cons]; omega
  case h_11 =>
    simp only [Option.map_eq_some_iff, Prod.exists, Prod.mk.injEq] at h
    obtain ⟨_, _, hn, _, rfl⟩ := h
    exact length_of_number? hn
  all_goals
    simp only [Option.some.injEq, Prod.mk.injEq] at h
    rw [← h.2]
    simp only [List.length_cons]; omega

/-- The tokens of a text, if it consists of tokens and blanks. -/
def tokens? (t : List Char) : Option (List Token) :=
  match _skipped : t.dropWhile isBlank with
  | [] => some []
  | c :: cs =>
    match _read : token? (c :: cs) with
    | none => none
    | some (k, rest) => (tokens? rest).map (k :: ·)
  termination_by t.length
  decreasing_by
    have h1 := length_of_token? _read
    have h2 := (List.dropWhile_sublist (l := t) isBlank).length_le
    rw [_skipped] at h2
    omega

end Token

end NoteSearch.Json
