-- SUMMARY: A scripted service: queued replies, gates that hold them back, and defaults.
import NoteSearch.Service.Call

/-!
# A scripted service

A rehearsal needs a service that answers as it is told. Replies are queued; a call takes the
first queued reply of its kind. A reply may be held back by a gate until the gate is opened. A
call without a queued reply gets a default one, for which the service keeps a list of saved
searches.
-/

namespace NoteSearch

def Call.accepts : Call → Reply → Bool
  | .search _, .search _ => true
  | .suggestions .., .suggestions _ => true
  | .listSaved, .listSaved _ => true
  | .createSaved _, .createSaved _ => true
  | .executeSaved _, .executeSaved _ => true
  | .deleteSaved _, .deleteSaved _ => true
  | .popular _, .popular _ => true
  | .trending .., .trending _ => true
  | .stats, .stats _ => true
  | .notes _, .notes _ => true
  | _, _ => false

namespace Rehearsal

structure Queued where
  reply : Reply
  /-- The gate that holds the reply back, if one does. -/
  gate : Option String

/-- A reply that waits for its gate. -/
structure Held where
  gate : String
  callId : Nat
  call : Call
  reply : Reply

structure Service where
  saved : List SavedSearch := []
  queue : List Queued := []
  closed : List String := []
  held : List Held := []

namespace Service

def push (s : Service) (q : Queued) : Service :=
  { s with queue := s.queue ++ [q], closed := s.closed ++ q.gate.toList }

/-- Takes the first queued reply for a call off the queue. -/
def dequeue (s : Service) (c : Call) : Option Queued × Service :=
  match s.queue.find? fun q => c.accepts q.reply with
  | none => (none, s)
  | some q => (some q, { s with queue := s.queue.eraseP fun q => c.accepts q.reply })

/-! ## Default replies -/

/-- The only hit of a search that nothing is queued for. -/
def defaultHit (r : Request) : Hit := { id := 1, title := r.query.getD "", relevance := 0.5 }

/-- The only note of a list that nothing is queued for. -/
def defaultNote (q : NoteQuery) : Note := { id := 1, title := q.search.getD "" }

def nextId (s : Service) : Int64 :=
  match s.saved with
  | [] => 1
  | first :: rest => rest.foldl (fun m x => if m < x.id then x.id else m) first.id + 1

def stored (s : Service) (d : SavedSearch.Draft) : SavedSearch :=
  { id := s.nextId, name := d.name, request := d.request }

/-- The reply to a call that nothing is queued for. -/
def defaultReply (s : Service) : Call → Reply
  | .search r => .search (.ok
      { hits := [defaultHit r], total := 1, page := r.page, perPage := r.perPage
        hasPrev := decide (1 < r.page) })
  | .suggestions text _ => .suggestions (.ok
      [{ text := text ++ " notes", searchCount := 3, relevance := 0.5 }])
  | .listSaved => .listSaved (.ok s.saved)
  | .createSaved d => .createSaved (.ok (s.stored d))
  | .executeSaved _ => .executeSaved (.ok {})
  | .deleteSaved _ => .deleteSaved (.ok ())
  | .popular _ => .popular (.ok [])
  | .trending .. => .trending (.ok [])
  | .stats => .stats (.ok {})
  | .notes q => .notes (.ok
      { notes := [defaultNote q], total := 1, page := q.page, perPage := q.perPage
        hasPrev := decide (1 < q.page) })

/-! ## Effects on the saved searches -/

def countUse (id : Int64) : List SavedSearch → List SavedSearch
  | [] => []
  | s :: rest =>
    if s.id = id then { s with useCount := s.useCount + 1 } :: rest else s :: countUse id rest

/-- What answering a call does to the saved searches. -/
def apply (s : Service) (c : Call) (r : Reply) : Service :=
  match c, r with
  | .executeSaved id, .executeSaved (.ok _) => { s with saved := countUse id s.saved }
  | .deleteSaved id, .deleteSaved (.ok _) =>
    { s with saved := s.saved.filter fun x => x.id != id }
  | _, _ => s

def answerByDefault (s : Service) (c : Call) : Reply × Service :=
  let r := s.defaultReply c
  match c with
  | .createSaved d => (r, { s with saved := s.saved ++ [s.stored d] })
  | _ => (r, s.apply c r)

/-- Receives a call. The reply is given at once, unless its gate is closed. -/
def receive (s : Service) (callId : Nat) (c : Call) : Option Reply × Service :=
  match s.dequeue c with
  | (none, s) =>
    let (r, s) := s.answerByDefault c
    (some r, s)
  | (some q, s) =>
    match q.gate with
    | some gate =>
      if s.closed.contains gate then
        (none, { s with held := s.held ++ [⟨gate, callId, c, q.reply⟩] })
      else (some q.reply, s.apply c q.reply)
    | none => (some q.reply, s.apply c q.reply)

/-- Opens a gate. The answer says what the gate held back, if it held something back. -/
def openGate (s : Service) (gate : String) : Option Held × Service :=
  (s.held.find? fun h => h.gate == gate,
    { s with
      closed := s.closed.filter fun g => g != gate
      held := s.held.filter fun h => h.gate != gate })

end Service

end Rehearsal

end NoteSearch
