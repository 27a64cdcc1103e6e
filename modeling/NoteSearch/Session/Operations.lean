-- SUMMARY: The operations of a session: what a user can do, and what happens at once.
import NoteSearch.Session.State

/-!
# Operations

Each operation changes the session at once and may send calls; what follows a reply is in
`Session/Events.lean`.
-/

namespace NoteSearch.Session

/-! ## Requests -/

/-- Sends a search for the filter as it is, at `page` or at the page of the filter. -/
def startSearch (s : Session) (page : Option UInt32) (purpose : SearchPurpose) : Step :=
  let request := s.filter.value.request (page.getD s.filter.value.page)
  let search := s.search.update (·.begin)
  { s with search }.send (.search search.value.issued request purpose)

/-- Sends a request for a page of the notes as they are filtered. -/
def startNotes (s : Session) (page : UInt32) (purpose : NotesPurpose) : Step :=
  let query := s.notes.value.query page
  let notes := s.notes.update (·.begin)
  { s with notes }.send (.notes notes.value.issued query purpose)

/-- Loads the list of saved searches, and then ends an operation with `result`. -/
def startRefresh (s : Session) (op : OperationId) (result : Result) : Step :=
  let saved := s.saved.update (·.beginRefresh)
  { s with saved }.send (.listSaved saved.value.refreshes op result)

/-- Empties query and results. -/
def clearSearch (s : Session) : Step :=
  let s := s.act (.setQuery "")
  ({ s with search := s.search.update (·.reset) }, [.cleared])

/-! ## Saved searches -/

def save (s : Session) (op : OperationId) (name : String) : Step :=
  match Text.trimmedNonBlank? name with
  | none => s.finish op (.saved (.error .emptyName))
  | some name => s.send (.createSaved op { name, request := s.filter.value.request 1 })

/-- Counts a use of a saved search, which is loaded and searched for afterwards. -/
def execute (s : Session) (op : OperationId) (saved : SavedSearch) : Step :=
  let pane := s.saved.update (·.beginExecution)
  { s with saved := pane }.send (.executeSaved pane.value.executions op saved)

/-! ## Insights -/

/-- Asks for the three parts of the usage numbers. -/
def loadInsights (s : Session) (op : OperationId) : Step :=
  let load := s.insights.started
  ({ s with insights := s.insights.begin }.send (.popular load op)).andThen fun s =>
    (s.send (.trending load op)).andThen fun s => s.send (.stats load op)

/-! ## The search box -/

/-- The user types: completions are scheduled, and so is a live write where typing has one. -/
def type (s : Session) (text : String) : Session :=
  let s := s.withSuggestions (s.suggestions.update (·.type s.settings s.now text))
  let s := s.cancelWrite
  { s with box := { s.box with text } }.scheduleWrite

def focus (s : Session) : Session :=
  { s with box := { s.box with focused := true }, suggestions := s.suggestions.update (·.focus) }

/-- The search box loses the focus. -/
def blur (s : Session) : Session :=
  { s with box := { s.box with focused := false }, suggestions := s.suggestions.update (·.blur) }

/-- The application shows the box somewhere else; a scheduled live write is dropped. -/
def setMode (s : Session) (mode : Mode) : Session :=
  let s := s.cancelWrite
  { s with box := { s.box with mode } }

/-- Searches for the typed text and leads to the results. A blank text does neither. -/
def submit (s : Session) (op : OperationId) (byKey : Bool) : Step :=
  let s := s.cancelWrite
  match Text.trimmedNonBlank? s.box.text with
  | none => s.finish op (if byKey then .key .ignored else .submitted none)
  | some text => (s.dismiss.act (.setQuery text)).startSearch (some 1) (.submit op byKey)

/-- Makes a chosen completion the text and the query, searches for it, and leads to the results
from anywhere else. -/
def commit (s : Session) (op : OperationId) (text : String) (byKey : Bool) : Step :=
  let s := s.cancelWrite
  let s := { s with box := { s.box with text } }
  let leads := s.box.mode != .searchPage
  (s.dismiss.act (.setQuery text)).startSearch (some 1) (.commit op byKey leads)

/-- The search box loses the focus at the end of an Escape. -/
def finishEscape (s : Session) (op : OperationId) : Step := s.blur.finish op (.key .cleared)

/-- Empties the box and takes back what its text has caused where the box stands. -/
def clearBox (s : Session) (op : OperationId) (byEscape : Bool) : Step :=
  let s := s.cancelWrite
  let s := { s with box := { s.box with text := "" } }.dismiss
  let finished := fun (s : Session) => if byEscape then s.finishEscape op else s.finish op .done
  match s.box.mode with
  | .searchPage => s.clearSearch.andThen finished
  | .liveFilter =>
    (s.patchNotes { search := some "" }).startNotes 1 (if byEscape then .escape op else .clear op)
  | .standalone => finished s

/-- Hands an arrow or Enter to the visible completions. -/
def suggestionPress (s : Session) (op : OperationId) (key : Key) : Step :=
  let (w, result) := Suggestions.handleKey s.suggestions key
  let s := s.withSuggestions w
  match result with
  | .commit text => s.commit op text true
  | .ignored =>
    if key = .enter then s.submit op true else s.finish op (.key (.suggestion .ignored))
  | other => s.finish op (.key (.suggestion other))

def press (s : Session) (op : OperationId) (k : KeyPress) : Step :=
  if k.isFocusChord then s.focus.finish op (.key .focused)
  else if !s.box.focused then s.finish op (.key .ignored)
  else
    match k.key with
    | .escape => s.clearBox op true
    | .arrowDown | .arrowUp =>
      if s.suggestions.value.visible then s.suggestionPress op k.key
      else s.finish op (.key .ignored)
    | .enter =>
      if s.suggestions.value.visible then s.suggestionPress op k.key else s.submit op true
    | _ => s.finish op (.key .ignored)

/-! ## All operations -/

end Session

/-- Everything that a user can do in a session. -/
inductive Command where
  | filter (a : Filter.Action)
  | run (page : Option UInt32)
  | goToPage (page : UInt32)
  | clearSearch
  | typeSuggestion (text : String)
  | focusSuggestions
  | blurSuggestions
  | dismissSuggestions
  | chooseSuggestion (index : Nat)
  | pressSuggestion (key : Key)
  | refreshSaved
  | save (name : String)
  | execute (saved : SavedSearch)
  | delete (id : Int64)
  | patchNotes (p : NoteFilter.Patch)
  | fetchNotes (page : UInt32)
  | loadInsights
  | type (text : String)
  | focus
  | blur
  | setMode (mode : Mode)
  | submit
  | commit (text : String)
  | clearBox
  | press (k : KeyPress)

namespace Session

def perform (s : Session) (op : OperationId) : Command → Step
  | .filter a => (s.act a).finish op .done
  | .run page => s.startSearch page (.run op)
  | .goToPage page => (s.act (.setPage page)).startSearch none (.run op)
  | .clearSearch => s.clearSearch.andThen (·.finish op .done)
  | .typeSuggestion text =>
    (s.withSuggestions (s.suggestions.update (·.type s.settings s.now text))).finish op .done
  | .focusSuggestions => { s with suggestions := s.suggestions.update (·.focus) }.finish op .done
  | .blurSuggestions => { s with suggestions := s.suggestions.update (·.blur) }.finish op .done
  | .dismissSuggestions => s.dismiss.finish op .done
  | .chooseSuggestion index =>
    let (w, text) := Suggestions.choose s.suggestions index
    (s.withSuggestions w).finish op (.chosen text)
  | .pressSuggestion key =>
    let (w, result) := Suggestions.handleKey s.suggestions key
    (s.withSuggestions w).finish op (.suggestionKey result)
  | .refreshSaved => s.startRefresh op .done
  | .save name => s.save op name
  | .execute saved => s.execute op saved
  | .delete id => s.send (.deleteSaved op id)
  | .patchNotes p => (s.patchNotes p).finish op .done
  | .fetchNotes page => s.startNotes page (.fetch op)
  | .loadInsights => s.loadInsights op
  | .type text => (s.type text).finish op .done
  | .focus => s.focus.finish op .done
  | .blur => s.blur.finish op .done
  | .setMode mode => (s.setMode mode).finish op .done
  | .submit => s.submit op false
  | .commit text => s.commit op text false
  | .clearBox => s.clearBox op false
  | .press k => s.press op k

end Session

end NoteSearch
