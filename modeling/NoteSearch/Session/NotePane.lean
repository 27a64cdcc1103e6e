-- SUMMARY: The plain list of notes: its filter, the page it shows and the request it waits for.
import NoteSearch.Service.Call
import NoteSearch.Search.Watched

/-!
# The list of notes

The list has a filter of its own, without operators. As on the results page, only the reply to
the latest request is shown.
-/

namespace NoteSearch

/-- What the list of notes is narrowed by. -/
structure NoteFilter where
  search : String := ""
  noteType : Option NoteType := none
  /-- Tags with commas between them, as typed. -/
  tags : String := ""
  deriving DecidableEq, Inhabited

/-- New values for some of the fields of a filter of notes. -/
structure NoteFilter.Patch where
  search : Option String := none
  noteType : Option (Option NoteType) := none
  tags : Option String := none
  deriving DecidableEq, Inhabited

def NoteFilter.patch (f : NoteFilter) (p : Patch) : NoteFilter where
  search := p.search.getD f.search
  noteType := p.noteType.getD f.noteType
  tags := p.tags.getD f.tags

structure NotePane where
  filter : NoteFilter := {}
  listing : NotePage := {}
  page : UInt32 := 1
  loading : Bool := false
  error : Option String := none
  perPage : UInt32 := 10
  issued : Nat := 0
  deriving Inhabited

namespace NotePane

/-- What is shown for a failure that the service does not explain. -/
def fallback : String := "Failed to fetch notes"

/-- Changes the filter and goes back to the first page. -/
def patch (change : NoteFilter.Patch) (p : NotePane) : NotePane :=
  { p with filter := p.filter.patch change, page := 1 }

/-- What is asked for to see a page. -/
def query (p : NotePane) (page : UInt32) : NoteQuery where
  page := atLeastOne page
  perPage := p.perPage
  search := Text.trimmedNonBlank? p.filter.search
  noteType := p.filter.noteType
  tags := Text.trimmedNonBlank? p.filter.tags

/-- Takes a ticket for a request that is being sent. -/
def begin (p : NotePane) : NotePane := { p with loading := true, issued := p.issued + 1 }

/-- What the reply to the latest request does. -/
def settle (query : NoteQuery) (reply : Except Failure NotePage) (p : NotePane) : NotePane :=
  match reply with
  | .ok listing => { p with listing, page := query.page, loading := false, error := none }
  | .error failure =>
    { p with listing := {}, loading := false, error := some (failure.userMessage fallback) }

/-- How a reply that is shown ends its request. -/
def outcome : Except Failure NotePage → Outcome
  | .ok _ => .applied
  | .error failure => .failed (failure.userMessage fallback)

/-- Takes the reply to the request with this ticket. -/
def receive (w : Watched NotePane) (ticket : Nat) (query : NoteQuery)
    (reply : Except Failure NotePage) : Watched NotePane × Outcome :=
  if ticket = w.value.issued then (w.update (settle query reply), outcome reply)
  else (w, .superseded)

section receive

variable (w : Watched NotePane) (ticket : Nat) (query : NoteQuery)
  (reply : Except Failure NotePage)

@[simp] theorem issued_receive :
    (receive w ticket query reply).1.value.issued = w.value.issued := by
  unfold receive
  split
  · cases reply <;> rfl
  · rfl

theorem loading_receive : (receive w ticket query reply).1.value.loading =
    if ticket = w.value.issued then false else w.value.loading := by
  unfold receive
  split
  · cases reply <;> rfl
  · rfl

end receive

end NotePane

end NoteSearch
