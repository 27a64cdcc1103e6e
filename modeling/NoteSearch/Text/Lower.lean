-- SUMMARY: Lower-casing: by characters, and of a whole text with the rule for a final sigma.
import NoteSearch.Text.LowerTable
import NoteSearch.Text.CaseContext

/-!
# Lower-casing

`lowerChar` maps one character without looking at its neighbours; `lower` maps a text and gives
a capital sigma at the end of a word its final form. The two differ on sigma only.
-/

namespace NoteSearch.Text

/-! ## One character -/

/-- The lower-case form of a character: two characters for the dotted capital I, one otherwise. -/
def lowerChar (c : Char) : List Char :=
  if c.toNat < 0x80 then
    if 0x41 ≤ c.toNat ∧ c.toNat ≤ 0x5A then [Char.ofNat (c.toNat + 0x20)] else [c]
  else if c = '\u0130' then ['i', '\u0307']
  else
    match caseRuns.findSome? (·.lower? c.toNat) with
    | some n => [Char.ofNat n]
    | none => [c]

theorem lowerChar_ne_nil (c : Char) : lowerChar c ≠ [] := by
  unfold lowerChar
  split
  · split <;> simp
  · split
    · simp
    · split <;> simp

/-! ## A text -/

/-- Whether the first character that is not ignorable is cased. -/
def meetsCased (t : List Char) : Bool :=
  match t.dropWhile isCaseIgnorable with
  | c :: _ => isCased c
  | [] => false

/-- Whether a capital sigma between `before` (nearest character first) and `after` ends a word:
a cased character precedes it and none follows, ignorable characters aside. -/
def isFinalSigma (before after : List Char) : Bool := meetsCased before && !meetsCased after

/-- Lower-cases `t`, which stands behind `before` (nearest character first). -/
def lowerAfter (before : List Char) : List Char → List Char
  | [] => []
  | c :: cs =>
    (if c = 'Σ' then [if isFinalSigma before cs then 'ς' else 'σ'] else lowerChar c) ++
      lowerAfter (c :: before) cs

def lower (t : List Char) : List Char := lowerAfter [] t

/-- Lower-cases a text character by character, without the rule for a final sigma. -/
def lowerEach (t : List Char) : List Char := t.flatMap lowerChar

@[simp] theorem lower_nil : lower [] = [] := rfl
@[simp] theorem lowerEach_nil : lowerEach [] = [] := rfl

@[simp] theorem lowerEach_cons (c : Char) (t : List Char) :
    lowerEach (c :: t) = lowerChar c ++ lowerEach t := rfl

@[simp] theorem lowerEach_append (t u : List Char) :
    lowerEach (t ++ u) = lowerEach t ++ lowerEach u := List.flatMap_append

end NoteSearch.Text
