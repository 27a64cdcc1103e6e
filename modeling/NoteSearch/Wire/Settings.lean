-- SUMMARY: The JSON form of settings.
import NoteSearch.Json.Decode
import NoteSearch.Session.Settings

/-!
# JSON form of settings

Every field may be missing.
-/

namespace NoteSearch.Wire

open Json

def settingsFields : List String :=
  ["suggestion_debounce", "live_search_debounce", "suggestion_limit", "min_suggestion_len",
    "per_page", "note_list_per_page"]

def settings : Reader Settings := fun t => do
  let [suggestionDelay, liveSearchDelay, limit, minLength, perPage, notesPerPage] ←
    t.fields? settingsFields 0 | none
  let default : Settings := {}
  let suggestionDelay ←
    Reader.withDefault Reader.uint64 default.suggestionDelay suggestionDelay
  let liveSearchDelay ←
    Reader.withDefault Reader.uint64 default.liveSearchDelay liveSearchDelay
  let suggestionLimit ← Reader.withDefault Reader.uint32 default.suggestionLimit limit
  let minSuggestionLength ←
    Reader.withDefault Reader.uint64 default.minSuggestionLength minLength
  let perPage ← Reader.withDefault Reader.uint32 default.perPage perPage
  let notesPerPage ← Reader.withDefault Reader.uint32 default.notesPerPage notesPerPage
  some
    { suggestionDelay, liveSearchDelay, suggestionLimit, minSuggestionLength, perPage
      notesPerPage }

end NoteSearch.Wire
