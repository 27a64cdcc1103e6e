-- SUMMARY: The settings of a search session: delays, limits and page sizes.
import NoteSearch.Search.Facets

/-!
# Settings

The numbers that a user may tune. Delays are in milliseconds.
-/

namespace NoteSearch

structure Settings where
  /-- The quiet time after typing before completions are fetched. -/
  suggestionDelay : UInt64 := 300
  /-- The quiet time after typing before the typed text takes effect. -/
  liveSearchDelay : UInt64 := 500
  /-- How many completions are asked for. -/
  suggestionLimit : UInt32 := 5
  /-- The length below which a typed text is not completed. -/
  minSuggestionLength : UInt64 := 2
  perPage : UInt32 := defaultPerPage
  notesPerPage : UInt32 := 10
  deriving DecidableEq, Inhabited

end NoteSearch
