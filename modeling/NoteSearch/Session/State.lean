-- SUMMARY: The state of a session: its panes, its unanswered calls and what each is for.
import NoteSearch.Search.Filter
import NoteSearch.Session.SearchPane
import NoteSearch.Session.Suggestions
import NoteSearch.Session.SavedPane
import NoteSearch.Session.NotePane
import NoteSearch.Session.Insights
import NoteSearch.Session.SearchBox

/-!
# Sessions

A session holds one filter, the panes that show what the service answers, the search box, and
the calls that are still unanswered. An operation that has to wait for the service leaves a
`Pending` behind, which says what is to be done with the reply. So a session is plain data
between two events, and the events may come in any order.
-/

namespace NoteSearch

/-! ## Results of operations -/

/-- What the search box has done with a key. -/
inductive KeyResult where
  | ignored
  | focused
  /-- Text and list are cleared and the focus is given up. -/
  | cleared
  | suggestion (k : SuggestionKey)
  | submitted (o : Outcome)
  deriving DecidableEq, Inhabited

/-- What an operation reports when it has ended. -/
inductive Result where
  | done
  | outcome (o : Outcome)
  | submitted (o : Option Outcome)
  | chosen (text : Option String)
  | suggestionKey (k : SuggestionKey)
  | saved (r : Except SavedSearchFailure SavedSearch)
  | executed (r : Except SavedSearchFailure Outcome)
  | deleted (r : Except SavedSearchFailure Unit)
  | key (k : KeyResult)

/-! ## Unanswered calls -/

/-- Operations are numbered by whoever starts them. -/
abbrev OperationId := Nat

/-- What follows the reply to a search. -/
inductive SearchPurpose where
  /-- The operation ends with the outcome. -/
  | run (op : OperationId)
  /-- Nothing: a live write has nobody who waits for it. -/
  | liveWrite (number : Nat)
  /-- The application is led to the results. -/
  | submit (op : OperationId) (byKey : Bool)
  /-- The application is led to the results if `leads` says so. -/
  | commit (op : OperationId) (byKey leads : Bool)
  /-- The list of saved searches is loaded again. -/
  | execution (op : OperationId)
  deriving DecidableEq

/-- What follows the reply to a request for notes. -/
inductive NotesPurpose where
  /-- The operation ends with the outcome. -/
  | fetch (op : OperationId)
  /-- Nothing: a live write has nobody who waits for it. -/
  | liveWrite (number : Nat)
  /-- The operation ends. -/
  | clear (op : OperationId)
  /-- The search box loses the focus, and the key has been handled. -/
  | escape (op : OperationId)
  deriving DecidableEq

/-- An unanswered call and what its reply is for. -/
inductive Pending where
  | search (ticket : Nat) (request : Request) (purpose : SearchPurpose)
  | suggestions (generation : Nat) (text : String) (limit : UInt32)
  /-- When the list has come, the operation ends with `result`. -/
  | listSaved (refresh : Nat) (op : OperationId) (result : Result)
  | createSaved (op : OperationId) (draft : SavedSearch.Draft)
  | executeSaved (execution : Nat) (op : OperationId) (saved : SavedSearch)
  | deleteSaved (op : OperationId) (id : Int64)
  | popular (load : Nat) (op : OperationId)
  | trending (load : Nat) (op : OperationId)
  | stats (load : Nat) (op : OperationId)
  | notes (ticket : Nat) (query : NoteQuery) (purpose : NotesPurpose)

def Pending.call : Pending → Call
  | search _ request _ => .search request
  | suggestions _ text limit => .suggestions text limit
  | listSaved .. => .listSaved
  | createSaved _ draft => .createSaved draft
  | executeSaved _ _ saved => .executeSaved saved.id
  | deleteSaved _ id => .deleteSaved id
  | popular .. => .popular Insights.listLimit
  | trending .. => .trending Insights.listLimit Insights.trendDays
  | stats .. => .stats
  | notes _ query _ => .notes query

/-- Whether this is a fetch of completions of another generation than `generation`. -/
def Pending.isStaleFetch (generation : Nat) : Pending → Bool
  | suggestions g _ _ => g != generation
  | _ => false

/-- Whether a live write waits for the reply to this call. -/
def Pending.isOfWrite (number : Nat) : Pending → Bool
  | search _ _ (.liveWrite n) => n == number
  | notes _ _ (.liveWrite n) => n == number
  | _ => false

structure InFlight where
  id : Nat
  pending : Pending

/-! ## The session -/

structure Session where
  settings : Settings
  /-- The time in milliseconds since the start. -/
  now : Nat := 0
  filter : Watched Filter
  search : Watched SearchPane := ⟨{}, 0⟩
  suggestions : Watched Suggestions := ⟨{}, 0⟩
  saved : Watched SavedPane := ⟨{}, 0⟩
  notes : Watched NotePane
  insights : Insights := {}
  box : SearchBox
  /-- The live writes that wait for the end of their quiet time. -/
  writes : List LiveWrite := []
  /-- Where the application has been led, in order. -/
  routes : List Route := []
  /-- The unanswered calls, in the order in which they were made. -/
  calls : List InFlight := []
  called : Nat := 0

/-- What an event causes, as it is seen from outside the session. -/
inductive Effect where
  | call (id : Nat) (call : Call)
  /-- The reply to a call has been taken. -/
  | answered (id : Nat) (reply : Reply)
  | finished (op : OperationId) (result : Result)
  /-- The results page has been emptied. -/
  | cleared

/-- A session after an event, and what the event causes, in order. -/
abbrev Step := Session × List Effect

/-- Goes on after a step. -/
def Step.andThen (st : Step) (next : Session → Step) : Step :=
  let rest := next st.1
  (rest.1, st.2 ++ rest.2)

namespace Session

def start (settings : Settings) (mode : Mode) : Session where
  settings
  filter := ⟨{ perPage := atLeastOne settings.perPage }, 0⟩
  notes := ⟨{ perPage := atLeastOne settings.notesPerPage }, 0⟩
  box := { mode }

def startWith (settings : Settings) (mode : Mode) (filter : Watched Filter) : Session :=
  { start settings mode with filter }

@[simp] theorem startWith_filter (settings : Settings) (mode : Mode) :
    startWith settings mode (start settings mode).filter = start settings mode := rfl

def finish (s : Session) (op : OperationId) (result : Result) : Step :=
  (s, [.finished op result])

def send (s : Session) (p : Pending) : Step :=
  ({ s with calls := s.calls ++ [⟨s.called, p⟩], called := s.called + 1 },
    [.call s.called p.call])

/-- Changes the completions. A fetch of a generation that is over is given up. -/
def withSuggestions (s : Session) (w : Watched Suggestions) : Session :=
  { s with
    suggestions := w
    calls := s.calls.filter fun c => !c.pending.isStaleFetch w.value.generation }

def navigate (s : Session) (route : Route) : Session := { s with routes := s.routes ++ [route] }

def act (s : Session) (a : Filter.Action) : Session :=
  { s with filter := s.filter.set (s.filter.value.act a) }

def patchNotes (s : Session) (p : NoteFilter.Patch) : Session :=
  { s with notes := s.notes.update (·.patch p) }

/-- Hides the completions for good. -/
def dismiss (s : Session) : Session := s.withSuggestions (s.suggestions.update (·.dismiss))

/-- Aborts a live write. It gives up the call that it waits for, and it does not take effect any
more, unless its quiet time is over: then it is on its way and has to find out for itself. -/
def abort (s : Session) (number : Nat) : Session :=
  { s with
    writes := s.writes.filter fun w => w.number != number || decide (w.due ≤ s.now)
    calls := s.calls.filter fun c => !c.pending.isOfWrite number }

/-- Drops the scheduled live write. -/
def cancelWrite (s : Session) : Session :=
  match s.box.pending with
  | some number => { s.abort number with box := s.box.cancel }
  | none => { s with box := s.box.cancel }

/-- Schedules a live write for the text of the box, where typing has one. -/
def scheduleWrite (s : Session) : Session :=
  if s.box.mode = .standalone then s
  else
    let due := s.now + s.settings.liveSearchDelay.toNat
    { s with
      box := { s.box with pending := some s.box.turn }
      writes := s.writes ++ [⟨s.box.turn, due, s.box.mode, s.box.text⟩] }

end Session

end NoteSearch
