-- SUMMARY: A session with a partner that answers its calls.
import NoteSearch.Session.Events

/-!
# Runs

A run couples a session with a partner that gets its calls. The partner answers a call at once or
keeps it. After each step of the session everything that it causes without waiting happens:
calls go out, and the replies that come at once are taken.
-/

namespace NoteSearch.Rehearsal

/-- A session under way with a partner. -/
structure Run (α : Type) where
  session : Session
  partner : α
  /-- The calls that the partner has got, in order. -/
  calls : List Call := []
  /-- The operations that have ended, in order, with what they reported. -/
  ended : List (OperationId × Result) := []

namespace Run

variable {α : Type} (respond : α → Nat → Call → Option Reply × α)

/-- More calls than one event can cause: an operation asks three times at most, and so does the
load of the usage numbers. -/
def maxCalls : Nat := 8

/-- Lets the effects of an event happen, the effects of replies included. -/
def settle (fuel : Nat) (run : Run α) : List Effect → Run α
  | [] => run
  | .finished op r :: rest => settle fuel { run with ended := run.ended ++ [(op, r)] } rest
  | .answered .. :: rest => settle fuel run rest
  | .cleared :: rest => settle fuel run rest
  | .call id c :: rest =>
    match fuel with
    | 0 => run
    | fuel + 1 =>
      let (reply?, partner) := respond run.partner id c
      let run := { run with partner, calls := run.calls ++ [c] }
      match reply? with
      | none => settle (fuel + 1) run rest
      | some r =>
        let (session, effects) := run.session.reply id r
        settle fuel { run with session } (effects ++ rest)
  termination_by effects => (fuel, effects.length)

/-- Takes a step of the session and lets its effects happen. -/
def take (run : Run α) (step : Step) : Run α :=
  settle respond maxCalls { run with session := step.1 } step.2

def perform (run : Run α) (op : OperationId) (c : Command) : Run α :=
  take respond run (run.session.perform op c)

end Run

end NoteSearch.Rehearsal
