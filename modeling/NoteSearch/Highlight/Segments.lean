-- SUMMARY: Cutting a text into marked and plain segments: leftmost matches, the longest term first.
import NoteSearch.Highlight.Terms

/-!
# Segments

A text is read from left to right. Where a term matches, ignoring case, its match becomes a
marked segment; where several match, the longest does. What lies between the matches becomes
plain segments.
-/

namespace NoteSearch.Highlight

/-! ## Matching one term -/

/-- How many characters of `text` have lower-case forms that spell `wanted` exactly. -/
def spelled? : (text wanted : List Char) → Option Nat
  | _, [] => some 0
  | [], _ :: _ => none
  | c :: cs, w :: ws =>
    match (Text.lowerChar c).isPrefixOf? (w :: ws) with
    | some rest => (spelled? cs rest).map (· + 1)
    | none => none

/-- How many characters a match of `term` at the start of `text` takes. No text matches the
empty term. -/
def matchLength? (text term : List Char) : Option Nat :=
  if term.isEmpty then none else spelled? text term

def longestMatch? (terms : List (List Char)) (text : List Char) : Option Nat :=
  (terms.filterMap (matchLength? text)).max?

/-! ## Cutting a text -/

/-- A stretch of a text that is marked or plain as a whole. -/
structure Run where
  chars : List Char
  marked : Bool
  deriving DecidableEq

def consPlain (c : Char) : List Run → List Run
  | ⟨chars, false⟩ :: rest => ⟨c :: chars, false⟩ :: rest
  | runs => ⟨[c], false⟩ :: runs

def runs (terms : List (List Char)) : List Char → List Run
  | [] => []
  | c :: cs =>
    match longestMatch? terms (c :: cs) with
    | some n => ⟨c :: cs.take (n - 1), true⟩ :: runs terms (cs.drop (n - 1))
    | none => consPlain c (runs terms cs)
  termination_by text => text.length
  decreasing_by all_goals simp only [List.length_cons, List.length_drop]; omega

@[simp] theorem runs_nil (terms : List (List Char)) : runs terms [] = [] := by
  simp [runs]

structure Segment where
  text : String
  marked : Bool
  deriving DecidableEq

/-- The segment that a run stands for. -/
def Run.toSegment (r : Run) : Segment := ⟨String.ofList r.chars, r.marked⟩

/-- The segments of a text. The empty text has one segment, which is empty and plain. -/
def segments (terms : Terms) (text : String) : List Segment :=
  if text.toList.isEmpty then [⟨text, false⟩]
  else (runs terms.toLists text.toList).map Run.toSegment

end NoteSearch.Highlight
