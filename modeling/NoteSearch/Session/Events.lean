-- SUMMARY: What happens to a session later: replies come in and timers run out.
import NoteSearch.Session.Operations

/-!
# Events

Between two operations of the user, replies arrive and quiet times end. A reply is taken by the
pane that asked for it, and then the operation behind the call goes on.
-/

namespace NoteSearch.Session

/-! ## Replies -/

def afterSearch (s : Session) (o : Outcome) : SearchPurpose → Step
  | .run op => s.finish op (.outcome o)
  | .liveWrite _ => (s, [])
  | .submit op byKey =>
    (s.navigate .searchResults).finish op
      (if byKey then .key (.submitted o) else .submitted (some o))
  | .commit op byKey leads =>
    (if leads then s.navigate .searchResults else s).finish op
      (if byKey then .key (.submitted o) else .outcome o)
  | .execution op => s.startRefresh op (.executed (.ok o))

def afterNotes (s : Session) (o : Outcome) : NotesPurpose → Step
  | .fetch op => s.finish op (.outcome o)
  | .liveWrite _ => (s, [])
  | .clear op => s.finish op .done
  | .escape op => s.finishEscape op

/-- Goes on after a use of a saved search has been counted. An execution that a later one has
overtaken ends, and so does one whose call failed; any other loads the saved search into the
filter and searches. -/
def afterExecute (s : Session) (execution : Nat) (op : OperationId) (saved : SavedSearch)
    (reply : Except Failure ResultPage) : Step :=
  if execution ≠ s.saved.value.executions then s.finish op (.executed (.error .superseded))
  else
    match reply with
    | .error failure => s.finish op (.executed (.error (.notExecuted failure.description)))
    | .ok _ => (s.act (.load saved.request)).startSearch (some 1) (.execution op)

def afterCreate (s : Session) (op : OperationId) : Except Failure SavedSearch → Step
  | .error failure => s.finish op (.saved (.error (.notSaved failure.description)))
  | .ok saved => s.startRefresh op (.saved (.ok saved))

def afterDelete (s : Session) (op : OperationId) (id : Int64) : Except Failure Unit → Step
  | .error failure => s.finish op (.deleted (.error (.notDeleted failure.description)))
  | .ok _ =>
    { s with saved := s.saved.update (·.remove id) }.startRefresh op (.deleted (.ok ()))

def afterPart (s : Session) (load : Nat) (op : OperationId) (part : InsightsPart) : Step :=
  match s.insights.receive load part with
  | (insights, true) => { s with insights }.finish op .done
  | (insights, false) => ({ s with insights }, [])

/-- Takes the reply to an unanswered call, which is no longer among the calls of the session. A
reply of another kind than the call is no reply to it. -/
def take (s : Session) : Pending → Reply → Option Step
  | .search ticket request purpose, .search reply =>
    let (search, outcome) := SearchPane.receive s.search ticket request reply
    some ({ s with search }.afterSearch outcome purpose)
  | .suggestions generation _ _, .suggestions reply =>
    some ({ s with suggestions := Suggestions.receive s.suggestions generation reply }, [])
  | .listSaved refresh op result, .listSaved reply =>
    some ({ s with saved := SavedPane.receive s.saved refresh reply }.finish op result)
  | .createSaved op _, .createSaved reply => some (s.afterCreate op reply)
  | .executeSaved execution op saved, .executeSaved reply =>
    some (s.afterExecute execution op saved reply)
  | .deleteSaved op id, .deleteSaved reply => some (s.afterDelete op id reply)
  | .popular load op, .popular reply => some (s.afterPart load op (.popular reply))
  | .trending load op, .trending reply => some (s.afterPart load op (.trending reply))
  | .stats load op, .stats reply => some (s.afterPart load op (.stats reply))
  | .notes ticket query purpose, .notes reply =>
    let (notes, outcome) := NotePane.receive s.notes ticket query reply
    some ({ s with notes }.afterNotes outcome purpose)
  | _, _ => none

def pending? (s : Session) (id : Nat) : Option Pending :=
  (s.calls.find? fun c => c.id == id).map (·.pending)

/-- The session without an unanswered call. -/
def forget (s : Session) (id : Nat) : Session :=
  { s with calls := s.calls.filter fun c => c.id != id }

def reply (s : Session) (id : Nat) (r : Reply) : Step :=
  match s.pending? id with
  | none => (s, [])
  | some p =>
    match (s.forget id).take p r with
    | none => (s, [])
    | some (after, effects) => (after, .answered id r :: effects)

end Session

/-! ## Timers -/

/-- What waits for a time. -/
inductive Timer where
  | fetch
  | write (number : Nat)
  deriving DecidableEq

/-- The earliest of some timers with the times at which they are due; of two at the same time the
first one. -/
def Timer.earliest? : List (Nat × Timer) → Option (Nat × Timer)
  | [] => none
  | t :: rest =>
    match earliest? rest with
    | none => some t
    | some u => some (if u.1 < t.1 then u else t)

namespace Session

def sendFetch (s : Session) (f : ScheduledFetch) : Step :=
  let w := { s.suggestions with value := s.suggestions.value.fire }
  { s with suggestions := w }.send
    (.suggestions w.value.generation f.text s.settings.suggestionLimit)

/-- A typed text takes effect where it was typed, if it changes anything there. -/
def liveWrite (s : Session) (w : LiveWrite) : Step :=
  match w.mode with
  | .liveFilter =>
    if w.text = s.notes.value.filter.search then (s, [])
    else (s.patchNotes { search := some w.text }).startNotes 1 (.liveWrite w.number)
  | .searchPage =>
    let text := Text.trimmed w.text
    if text = s.filter.value.query then (s, [])
    else if text.isEmpty then s.clearSearch
    else (s.act (.setQuery text)).startSearch (some 1) (.liveWrite w.number)
  | .standalone => (s, [])

/-- The quiet time of a live write has passed. The write takes effect if its turn is not over. -/
def wake (s : Session) (w : LiveWrite) : Step :=
  let s := { s with writes := s.writes.filter fun v => v.number != w.number }
  match s.box.claim? w.number with
  | none => (s, [])
  | some box => { s with box }.liveWrite w

/-- A timer rings, if it is due. -/
def ring (s : Session) : Timer → Step
  | .fetch =>
    match s.suggestions.value.scheduled with
    | none => (s, [])
    | some f => if f.due ≤ s.now then s.sendFetch f else (s, [])
  | .write number =>
    match s.writes.find? fun w => w.number == number && decide (w.due ≤ s.now) with
    | none => (s, [])
    | some w => s.wake w

/-- The timers of a session with the times at which they are due. -/
def timers (s : Session) : List (Nat × Timer) :=
  (s.suggestions.value.scheduled.map fun f => (f.due, Timer.fetch)).toList ++
    s.writes.map fun w => (w.due, .write w.number)

def setClock (s : Session) (time : Nat) : Session := { s with now := time }

/-- The earliest timer that is due until `limit` rings at its own time. -/
def ringNext? (s : Session) (limit : Nat) : Option Step :=
  match Timer.earliest? s.timers with
  | none => none
  | some (due, t) =>
    if due ≤ limit then some ((s.setClock (max s.now due)).ring t) else none

/-- At most `count` timers ring until `limit`, and then the clock stands at `limit`. -/
def ringUntil (limit : Nat) : Nat → Session → Step
  | 0, s => (s.setClock limit, [])
  | count + 1, s =>
    match s.ringNext? limit with
    | none => (s.setClock limit, [])
    | some st => st.andThen (ringUntil limit count)

/-- Time passes until `limit`, and every timer rings when it is due. A timer that rings starts no
other, so there are no more of them than at the beginning. -/
def elapse (s : Session) (limit : Nat) : Step := ringUntil limit s.timers.length s

end Session

/-! ## Events -/

/-- Whatever can happen to a session. -/
inductive Event where
  | command (op : OperationId) (c : Command)
  | reply (id : Nat) (r : Reply)
  /-- Time passes, and every timer rings when it is due. -/
  | wait (ms : Nat)
  /-- Time passes, and the timers that become due are late. -/
  | pass (ms : Nat)
  | ring (t : Timer)

namespace Session

def step (s : Session) : Event → Step
  | .command op c => s.perform op c
  | .reply id r => s.reply id r
  | .wait ms => s.elapse (s.now + ms)
  | .pass ms => (s.setClock (s.now + ms), [])
  | .ring t => s.ring t

/-- What events do one after the other. -/
def steps (s : Session) : List Event → Step
  | [] => (s, [])
  | e :: es => (s.step e).andThen (·.steps es)

end Session

end NoteSearch
