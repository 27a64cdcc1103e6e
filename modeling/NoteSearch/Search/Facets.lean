-- SUMMARY: The values that a search is narrowed by: kinds of notes, tag modes and ranges of days.
import NoteSearch.Calendar.Date

/-!
# Facets

The small types that filters and requests share, and the defaults of both.
-/

namespace NoteSearch

open Calendar

/-- Whether a note must have all of the wanted tags or one of them. -/
inductive TagMode where
  | all
  | any
  deriving DecidableEq, Inhabited

inductive NoteType where
  | text
  | structured
  deriving DecidableEq, Inhabited

namespace TagMode

def toText : TagMode → String
  | all => "and"
  | any => "or"

def ofText? : String → Option TagMode
  | "and" => some all
  | "or" => some any
  | _ => none

end TagMode

namespace NoteType

def toText : NoteType → String
  | text => "text"
  | structured => "structured"

def ofText? : String → Option NoteType
  | "text" => some text
  | "structured" => some structured
  | _ => none

end NoteType

/-- A range of days; a missing bound leaves its side open. -/
structure DateRange where
  after : Option Date := none
  before : Option Date := none
  deriving DecidableEq, Inhabited

def DateRange.isBounded (r : DateRange) : Bool := r.after.isSome || r.before.isSome

/-- The order of results where no other is asked for. -/
def defaultSort : String := "relevance"

def defaultPerPage : UInt32 := 20

/-- Pages and their sizes count from one. -/
def atLeastOne (n : UInt32) : UInt32 := if n = 0 then 1 else n

@[simp] theorem atLeastOne_one : atLeastOne 1 = 1 := rfl

theorem one_le_atLeastOne (n : UInt32) : 1 ≤ atLeastOne n := by
  unfold atLeastOne
  split
  · exact UInt32.le_refl _
  · rename_i h
    rw [UInt32.le_iff_toNat_le]
    have : n.toNat ≠ 0 := fun h0 => h (UInt32.toNat_inj.1 h0)
    simp only [UInt32.reduceToNat]; omega

@[simp] theorem atLeastOne_atLeastOne (n : UInt32) : atLeastOne (atLeastOne n) = atLeastOne n := by
  by_cases h : n = 0 <;> simp [atLeastOne, h]

/-- An order of results by its trimmed name; a blank name stands for the default. -/
def normalSort (name : String) : String := (Text.trimmedNonBlank? name).getD defaultSort

/-- A query text as it is kept: a blank text is no query at all, any other is kept as typed. -/
def normalQuery (text : String) : String := (Text.nonBlank? text).getD ""

@[simp] theorem normalQuery_trimmed (text : String) :
    normalQuery (Text.trimmed text) = Text.trimmed text := by
  unfold normalQuery Text.nonBlank?
  split
  · rw [Text.trimmed_eq_empty_of_isBlankString ‹_›]
    rfl
  · rfl

end NoteSearch
