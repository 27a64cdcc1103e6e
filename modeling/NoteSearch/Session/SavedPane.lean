-- SUMMARY: The list of saved searches as a session knows it.
import NoteSearch.Service.Call
import NoteSearch.Search.Watched

/-!
# Saved searches of a session

The list is loaded from the service. Only the reply to the latest request for it is taken, and
only the latest execution of a saved search may go on.
-/

namespace NoteSearch

structure SavedPane where
  items : List SavedSearch := []
  loading : Bool := false
  error : Option String := none
  refreshes : Nat := 0
  executions : Nat := 0
  deriving Inhabited

namespace SavedPane

/-- What is shown for a failure to load that the service does not explain. -/
def fallback : String := "Failed to load saved searches"

def beginRefresh (p : SavedPane) : SavedPane :=
  { p with loading := true, refreshes := p.refreshes + 1 }

/-- What the reply to the latest request for the list does. A failure keeps the items. -/
def settle (reply : Except Failure (List SavedSearch)) (p : SavedPane) : SavedPane :=
  match reply with
  | .ok items => { p with items, loading := false, error := none }
  | .error failure => { p with loading := false, error := some (failure.userMessage fallback) }

def receive (w : Watched SavedPane) (refresh : Nat) (reply : Except Failure (List SavedSearch)) :
    Watched SavedPane :=
  if refresh = w.value.refreshes then w.update (settle reply) else w

section receive

variable (w : Watched SavedPane) (refresh : Nat) (reply : Except Failure (List SavedSearch))

@[simp] theorem refreshes_receive :
    (receive w refresh reply).value.refreshes = w.value.refreshes := by
  unfold receive
  split
  · cases reply <;> rfl
  · rfl

@[simp] theorem executions_receive :
    (receive w refresh reply).value.executions = w.value.executions := by
  unfold receive
  split
  · cases reply <;> rfl
  · rfl

theorem loading_receive : (receive w refresh reply).value.loading =
    if refresh = w.value.refreshes then false else w.value.loading := by
  unfold receive
  split
  · cases reply <;> rfl
  · rfl

end receive

def beginExecution (p : SavedPane) : SavedPane := { p with executions := p.executions + 1 }

def remove (id : Int64) (p : SavedPane) : SavedPane :=
  { p with items := p.items.filter fun s => s.id != id }

end SavedPane

end NoteSearch
