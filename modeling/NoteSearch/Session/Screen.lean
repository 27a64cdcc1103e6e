-- SUMMARY: What the views show of a session.
import NoteSearch.Session.State

/-!
# Screens

Views read the filter, the panes, the search box and the routes. The tickets, generations and turns
that a session uses to tell replies and timers apart are not shown.
-/

namespace NoteSearch

structure Screen where
  filter : Filter
  search : SearchView
  completions : List Candidate
  completionsVisible : Bool
  selected : Option Nat
  saved : List SavedSearch
  savedLoading : Bool
  savedError : Option String
  noteFilter : NoteFilter
  notes : NotePage
  notesPage : UInt32
  notesLoading : Bool
  notesError : Option String
  popular : List PopularQuery
  trending : List TrendingQuery
  stats : Option UsageStats
  statsLoading : Bool
  text : String
  mode : Mode
  focused : Bool
  /-- Whether the list of completions takes the search box to have the focus. -/
  completionsFocused : Bool
  routes : List Route
  /-- How often the views of filter, results, completions, saved searches and notes were told of a
  change. -/
  revisions : List Nat

def Session.screen (s : Session) : Screen where
  filter := s.filter.value
  search := s.search.value.view
  completions := s.suggestions.value.items
  completionsVisible := s.suggestions.value.visible
  selected := s.suggestions.value.selected
  saved := s.saved.value.items
  savedLoading := s.saved.value.loading
  savedError := s.saved.value.error
  noteFilter := s.notes.value.filter
  notes := s.notes.value.listing
  notesPage := s.notes.value.page
  notesLoading := s.notes.value.loading
  notesError := s.notes.value.error
  popular := s.insights.popular
  trending := s.insights.trending
  stats := s.insights.stats
  statsLoading := s.insights.loading
  text := s.box.text
  mode := s.box.mode
  focused := s.box.focused
  completionsFocused := s.suggestions.value.focused
  routes := s.routes
  revisions := [s.filter.revision, s.search.revision, s.suggestions.revision, s.saved.revision,
    s.notes.revision]

@[simp] theorem Session.filter_screen (s : Session) : s.screen.filter = s.filter.value := rfl

end NoteSearch
