-- SUMMARY: The request that is sent for a search and stored in a saved search.
import NoteSearch.Search.Facets

/-!
# Requests

A request says what is searched for and which page of the results is wanted. What is not
constrained is absent.
-/

namespace NoteSearch

/-- A search as it is sent and stored. -/
structure Request where
  query : Option String := none
  tags : Option (List String) := none
  tagMode : TagMode := .all
  excludedTags : Option (List String) := none
  noteType : Option NoteType := none
  created : DateRange := {}
  updated : DateRange := {}
  titleOnly : Bool := false
  hasAttachments : Option Bool := none
  sortBy : String := defaultSort
  page : UInt32 := 1
  perPage : UInt32 := defaultPerPage
  deriving DecidableEq, Inhabited

end NoteSearch
