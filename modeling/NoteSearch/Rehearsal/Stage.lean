-- SUMMARY: A rehearsal: a session, a scripted service and a clock that moves on cue.
import NoteSearch.Rehearsal.Run
import NoteSearch.Rehearsal.Service

/-!
# Rehearsals

A rehearsal runs a session against a scripted service. Each cue is followed by everything that
it causes without waiting: replies that are not held back arrive at once, and time moves only on
cue, from one timer to the next.
-/

namespace NoteSearch.Rehearsal

abbrev Stage := Run Service

/-- What happens next in a rehearsal. -/
inductive Cue where
  | push (q : Queued)
  | release (gate : String)
  | advance (ms : Nat)
  | command (op : OperationId) (c : Command)

namespace Stage

/-- Takes a step of the session and lets its effects happen. -/
def take (stage : Stage) (step : Step) : Stage := Run.take Service.receive stage step

/-- Lets the timers due until `limit` run out, one after the other. -/
def runTimers (limit : Nat) : Nat → Stage → Stage
  | 0, stage => stage
  | n + 1, stage =>
    match stage.session.ringNext? limit with
    | none => stage
    | some step => runTimers limit n (stage.take step)

def advance (stage : Stage) (ms : Nat) : Stage :=
  let limit := stage.session.now + ms
  let stage := runTimers limit stage.session.timers.length stage
  { stage with session := stage.session.setClock limit }

/-- Opens a gate. The answer says whether the gate was closed and its call not given up. -/
def release (stage : Stage) (gate : String) : Bool × Stage :=
  if stage.partner.closed.contains gate then
    let (held?, service) := stage.partner.openGate gate
    let stage := { stage with partner := service }
    match held? with
    | none => (true, stage)
    | some held =>
      if (stage.session.pending? held.callId).isSome then
        let stage := { stage with partner := stage.partner.apply held.call held.reply }
        (true, take stage (stage.session.reply held.callId held.reply))
      else (false, stage)
  else (false, stage)

/-- What a cue does. The first part of the answer belongs to a release. -/
def cue (stage : Stage) : Cue → Option Bool × Stage
  | .push q => (none, { stage with partner := stage.partner.push q })
  | .release gate =>
    let (opened, stage) := release stage gate
    (some opened, advance stage 0)
  | .advance ms => (none, advance stage ms)
  | .command op c => (none, advance (take stage (stage.session.perform op c)) 0)

end Stage

end NoteSearch.Rehearsal
