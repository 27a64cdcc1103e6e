-- SUMMARY: Saved searches: named requests that the service stores, and their one-line summary.
import NoteSearch.Search.Request
import NoteSearch.Calendar.Timestamp

/-!
# Saved searches

A saved search is a request under a name. The service stores it, numbers it and counts its uses.
-/

namespace NoteSearch

open Calendar

structure SavedSearch where
  id : Int64
  name : String
  request : Request
  useCount : UInt32 := 0
  lastUsedAt : Option Timestamp := none
  createdAt : Option Timestamp := none
  deriving DecidableEq, Inhabited

/-- A search that is to be stored. -/
structure SavedSearch.Draft where
  name : String
  request : Request
  deriving DecidableEq, Inhabited

namespace SavedSearch

/-! ## Summary -/

def queryPart (r : Request) : Option String :=
  match r.query with
  | some query => if query.isEmpty then none else some ("\"" ++ query ++ "\"")
  | none => none

def tagsPart (r : Request) : Option String :=
  match r.tags.getD [] with
  | [] => none
  | tags => some ("Tags: " ++ ", ".intercalate (tags.take 2) ++
      if 2 < tags.length then "..." else "")

def excludedPart (r : Request) : Option String :=
  match r.excludedTags.getD [] with
  | [] => none
  | tag :: rest => some ("Exclude: " ++ tag ++ if rest.isEmpty then "" else "...")

def typePart (r : Request) : Option String := r.noteType.map fun t => "Type: " ++ t.toText

/-- One line that says what a saved search looks for. -/
def summary (s : SavedSearch) : String :=
  match [queryPart, tagsPart, excludedPart, typePart].filterMap (· s.request) with
  | [] => "Empty search"
  | parts => " · ".intercalate parts

end SavedSearch

end NoteSearch
