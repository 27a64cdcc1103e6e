-- SUMMARY: A canned web server behind a network, and sessions that call it.
import NoteSearch.Rehearsal.Run
import NoteSearch.Web.Client

/-!
# A canned server

The server gives its answers in the order of the requests, whatever they ask for; where an
answer is missing it closes the connection. Nothing reaches it while the network is down.
-/

namespace NoteSearch.Rehearsal

open Web

/-- Whether requests get through. -/
inductive Network where
  | up
  | down
  deriving DecidableEq, Inhabited

structure Server where
  /-- The host and the port of the server. -/
  authority : String
  network : Network := .up
  /-- The answers that are left; a missing one closes the connection. -/
  answers : List (Option HttpResponse) := []
  received : List HttpRequest := []

namespace Server

/-- A response as it gets through, if it does. -/
def carried (r : HttpResponse) : Option HttpResponse :=
  if !r.isReadable then none
  else if r.hasBody then some r
  else some { r with body := [] }

def isReached (s : Server) (r : HttpRequest) : Bool :=
  s.network == .up && r.isSendable && r.address?.any (·.authority == s.authority)

/-- Sends a request, and waits for the response. -/
def exchange (s : Server) (r : HttpRequest) : Option HttpResponse × Server :=
  if s.isReached r then
    (s.answers.head?.join.bind carried,
      { s with answers := s.answers.tail, received := s.received ++ [r] })
  else (none, s)

/-- No answer here comes in an encoding with tables, so each byte would give the replacement
character. -/
def noTables : Tables := fun _ bytes => bytes.map fun _ => replacement

def call (s : Server) (client : Client) (c : Call) : Reply × Server :=
  let (response, s) := s.exchange (client.request c)
  (client.reply noTables c response, s)

def respond (client : Client) (s : Server) (_ : Nat) (c : Call) : Option Reply × Server :=
  let (reply, s) := s.call client c
  (some reply, s)

def connect (s : Server) (c : Configuration) (mode : Mode) : Run Server :=
  { session := .start c.settings mode, partner := s }

def perform (c : Configuration) (run : Run Server) (op : OperationId) (command : Command) :
    Run Server :=
  run.perform (respond (.ofConfiguration c)) op command

end Server

end NoteSearch.Rehearsal
