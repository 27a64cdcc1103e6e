-- SUMMARY: The results page: which request it waits for and what it shows.
import NoteSearch.Service.Call
import NoteSearch.Search.Watched
import NoteSearch.Highlight.Terms

/-!
# The results page

Each request for results gets a ticket, and only the reply to the latest ticket is shown,
whatever the order in which replies come. Clearing the page takes a ticket as well, so a reply
that is still on its way is not shown afterwards.
-/

namespace NoteSearch

/-- What the results page shows. -/
structure SearchView where
  results : ResultPage := {}
  loading : Bool := false
  error : Option String := none
  /-- The terms of the query that the results belong to. -/
  terms : Highlight.Terms := {}
  deriving Inhabited

structure SearchPane where
  view : SearchView := {}
  issued : Nat := 0
  deriving Inhabited

namespace SearchPane

/-- What is shown for a failure that the service does not explain. -/
def fallback : String := "Search failed"

/-- Takes a ticket for a request that is being sent. -/
def begin (p : SearchPane) : SearchPane :=
  { view := { p.view with loading := true }, issued := p.issued + 1 }

/-- What is shown for a reply to `request`. -/
def shown (request : Request) : Except Failure ResultPage → SearchView
  | .ok results => { results, terms := .ofQuery (request.query.getD "") }
  | .error failure => { error := some (failure.userMessage fallback) }

/-- How a reply that is shown ends its request. -/
def outcome : Except Failure ResultPage → Outcome
  | .ok _ => .applied
  | .error failure => .failed (failure.userMessage fallback)

/-- Takes the reply to the request with this ticket. -/
def receive (w : Watched SearchPane) (ticket : Nat) (request : Request)
    (reply : Except Failure ResultPage) : Watched SearchPane × Outcome :=
  if ticket = w.value.issued then
    (w.update fun p => { p with view := shown request reply }, outcome reply)
  else (w, .superseded)

@[simp] theorem loading_shown (request : Request) (reply : Except Failure ResultPage) :
    (shown request reply).loading = false := by
  cases reply <;> rfl

section receive

variable (w : Watched SearchPane) (ticket : Nat) (request : Request)
  (reply : Except Failure ResultPage)

@[simp] theorem issued_receive :
    (receive w ticket request reply).1.value.issued = w.value.issued := by
  unfold receive
  split <;> rfl

theorem loading_receive : (receive w ticket request reply).1.value.view.loading =
    if ticket = w.value.issued then false else w.value.view.loading := by
  unfold receive
  split <;> simp

end receive

/-- Empties the page and gives up on the request in flight. -/
def reset (p : SearchPane) : SearchPane := { view := {}, issued := p.issued + 1 }

end SearchPane

end NoteSearch
